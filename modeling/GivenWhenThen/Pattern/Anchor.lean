import GivenWhenThen.Unicode.Word

/-! Conditions on a place of a text. -/

namespace GivenWhenThen

/-- A place of a text: the characters before it and after it, if there are any. -/
structure Place where
  before : Option Char
  after : Option Char

/-- How a place lies to the words of the text. -/
inductive WordAnchor where
  | boundary
  | inside
  | start
  | stop
  | startHalf
  | stopHalf
deriving DecidableEq, Repr

/-- A condition on a place. A line ends with a line feed, and where `crlf` says so also with a
carriage return or with both of them in a row. `ascii` says that words have ASCII characters
only. -/
inductive Anchor where
  | textStart
  | textEnd
  | lineStart (crlf : Bool)
  | lineEnd (crlf : Bool)
  | word (anchor : WordAnchor) (ascii : Bool)
deriving DecidableEq, Repr

/-- The character is a letter, a digit or a low line of ASCII. -/
def isAsciiWord (c : Char) : Bool := c.isAlphanum || c == '_'

/-- The condition on a place with a word before it and a word after it, as the flags say. -/
def WordAnchor.holds (before after : Bool) : WordAnchor → Bool
  | boundary => before != after
  | inside => before == after
  | start => !before && after
  | stop => before && !after
  | startHalf => !before
  | stopHalf => !after

/-- The anchor holds at the place. -/
def Anchor.holds (place : Place) : Anchor → Bool
  | textStart => place.before.isNone
  | textEnd => place.after.isNone
  | lineStart crlf =>
    place.before.all fun c => c == '\n' || crlf && c == '\r' && place.after != some '\n'
  | lineEnd crlf =>
    place.after.all fun c =>
      if crlf then c == '\r' || c == '\n' && place.before != some '\r' else c == '\n'
  | word anchor ascii =>
    let isWord := if ascii then isAsciiWord else Unicode.isWord
    anchor.holds (place.before.any isWord) (place.after.any isWord)

end GivenWhenThen
