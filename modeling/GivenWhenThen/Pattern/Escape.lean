import GivenWhenThen.Pattern.Anchor
import GivenWhenThen.Pattern.Flags
import GivenWhenThen.Pattern.Property

/-! What a backslash in a pattern stands for: a character, a set of characters or an anchor. Each
reader takes characters off the front and leaves the rest. -/

namespace GivenWhenThen.Pattern

inductive Escape where
  | char (c : Char)
  | chars (set : CharSet)
  | anchor (anchor : Anchor)

namespace Escape

/-- Characters that have a meaning of their own in patterns. -/
def isMeta (c : Char) : Bool := "\\.+*?()|[]\x7b\x7d^$#&-~".toList.contains c

/-- A backslash makes this character stand for itself. -/
def isEscapable (c : Char) : Bool :=
  isMeta c || (c.toNat < 0x80 && !c.isAlphanum && c != '<' && c != '>')

/-- The value of a hexadecimal digit. -/
def hexValue (digit : Char) : Nat :=
  if digit.isDigit then digit.toNat - '0'.toNat else digit.toLower.toNat - 'a'.toNat + 10

def isHexDigit (c : Char) : Bool := c.isDigit || 'a' ≤ c.toLower && c.toLower ≤ 'f'

/-- The character with a hexadecimal number. -/
def ofHex? (digits : List Char) : Option Char :=
  let value := digits.foldl (fun value digit => 16 * value + hexValue digit) 0
  if !digits.isEmpty && value.isValidChar then some (Char.ofNat value) else none

/-- A hexadecimal number in braces, or one of the given length. A short number written with two
digits stands for a byte, which is no character of its own in ASCII beyond `7f`. -/
def hex? (flags : Flags) (length : Nat) (text : List Char) : Option (Char × List Char) := do
  match flags.skip text with
  | '\x7b' :: rest =>
    match flags.takeAll isHexDigit (flags.skip rest) with
    | (digits, '\x7d' :: rest) => return (← ofHex? digits, rest)
    | _ => none
  | rest =>
    let (digits, rest) := flags.takeSome isHexDigit length rest
    let c ← ofHex? digits
    if digits.length < length || flags.ascii && length = 2 && 0x80 ≤ c.toNat then none
    else return (c, rest)

/-- The word anchors with a name. -/
def namedAnchor? (name : String) : Option WordAnchor :=
  match name with
  | "start" => some .start
  | "end" => some .stop
  | "start-half" => some .startHalf
  | "end-half" => some .stopHalf
  | _ => none

/-- A word boundary, whose kind may stand in braces after it. Braces that do not begin with a letter
or a dash are left: they count repetitions. -/
def boundary? (flags : Flags) (text : List Char) : Option (WordAnchor × List Char) :=
  let isNamePart (c : Char) : Bool := c.isAlpha || c == '-'
  match text with
  | '\x7b' :: inner => do
    let inner := flags.skip inner
    let (name, rest) := flags.takeAll isNamePart inner
    if inner.isEmpty then none
    else if name.isEmpty then return (.boundary, text)
    else match rest with
      | '\x7d' :: rest => return (← namedAnchor? (String.ofList name), rest)
      | _ => none
  | _ => some (.boundary, text)

/-- The set of ASCII characters that a letter stands for, in place of the one of all scripts. -/
def asciiSet : Char → CharSet
  | 'd' => .range '0' '9'
  | 's' => .union (.range '\t' '\r') (.single ' ')
  | _ => .ofRanges [(0x30, 0x39), (0x41, 0x5A), (0x5F, 0x5F), (0x61, 0x7A)]

/-- The set of characters that a letter stands for, with all their variants up to case. A capital
letter stands for the characters outside, which are not of ASCII alone. -/
def namedSet? (flags : Flags) (letter : Char) : Option CharSet :=
  let set := if flags.ascii then asciiSet letter.toLower else match letter.toLower with
    | 'd' => .digit
    | 's' => .blank
    | _ => .word
  if letter.isLower then some set else if flags.ascii then none else some set.complement

/-- A property, as one character or as a description in braces. It has no ASCII meaning. -/
def property? (flags : Flags) (negated : Bool) (text : List Char) :
    Option (CharSet × List Char) := do
  if flags.ascii then none
  let (name, rest) ← match flags.skip text with
    | [] => none
    | '\x7b' :: rest =>
      match flags.takeAll (· != '\x7d') (flags.skip rest) with
      | (name, _ :: rest) => some (name, rest)
      | (_, []) => none
    | c :: rest => some ([c], rest)
  let set := flags.close (← CharSet.Property.ofText? name)
  return (if negated then set.complement else set, rest)

/-- What follows a backslash. -/
def read? (flags : Flags) : List Char → Option (Escape × List Char)
  | [] => none
  | c :: rest =>
    let one (c : Char) : Option (Escape × List Char) := some (char c, rest)
    let place (a : Anchor) : Option (Escape × List Char) := some (anchor a, rest)
    let number (length : Nat) : Option (Escape × List Char) :=
      (hex? flags length rest).map fun (c, rest) => (char c, rest)
    match c with
    | 'd' | 'D' | 's' | 'S' | 'w' | 'W' => (namedSet? flags c).map fun set => (chars set, rest)
    | 'p' | 'P' => (property? flags (c == 'P') rest).map fun (set, rest) => (chars set, rest)
    | 'a' => one '\x07'
    | 'f' => one '\x0c'
    | 't' => one '\t'
    | 'n' => one '\n'
    | 'r' => one '\r'
    | 'v' => one '\x0b'
    | 'A' => place .textStart
    | 'z' => place .textEnd
    | 'b' => (boundary? flags rest).map fun (a, rest) => (anchor (.word a flags.ascii), rest)
    | 'B' => place (.word .inside flags.ascii)
    | '<' => place (.word .start flags.ascii)
    | '>' => place (.word .stop flags.ascii)
    | 'x' => number 2
    | 'u' => number 4
    | 'U' => number 8
    | c => if isEscapable c then one c else none

end Escape

end GivenWhenThen.Pattern
