import GivenWhenThen.Pattern.Basic
import GivenWhenThen.Pattern.Bracket
import GivenWhenThen.Unicode.Alphabetic
import GivenWhenThen.Unicode.Numeric

/-! The tokens of a written pattern: items that match a character or a place, bars, groups with
their flags, and repetitions. -/

namespace GivenWhenThen.Pattern

/-- The kinds of groups: those that only hold a pattern together, perhaps with other flags in it,
and those that are numbered, perhaps with a name. -/
inductive GroupKind where
  | plain (change : FlagChange)
  | numbered (name : Option String)

inductive Token where
  /-- A pattern without parts of its own, and the depth to which brackets nest in it. -/
  | item (pattern : Pattern) (depth : Nat)
  | alternative
  | openGroup (kind : GroupKind)
  | change (change : FlagChange)
  | closeGroup
  | iterate (least : Nat) (most : Option Nat)

namespace Token

/-- A character, or one of its variants up to case. -/
def char (flags : Flags) (c : Char) : Token := item (.ofSet (flags.close (.single c))) 0

/-- Any character, but none that ends a line unless the flags say so. There is no such set of ASCII
characters alone. -/
def dot? (flags : Flags) : Option Token :=
  let newline := CharSet.single '\n'
  let ends := if flags.crlf then newline.union (.single '\r') else newline
  let set := if flags.dotAll then .full else ends.complement
  if flags.ascii then none else some (item (.ofSet set) 0)

def place (a : Anchor) : Token := item (anchor a) 0

def lineStart (flags : Flags) : Token :=
  place (if flags.multiLine then .lineStart flags.crlf else .textStart)

def lineEnd (flags : Flags) : Token :=
  place (if flags.multiLine then .lineEnd flags.crlf else .textEnd)

/-- What a backslash stands for. -/
def ofEscape (flags : Flags) : Escape → Token
  | .char c => char flags c
  | .chars set => item (.ofSet set) 0
  | .anchor a => place a

/-- A decimal number of at most 32 bits with white space around it, of which there must be a
digit. -/
def decimal? (flags : Flags) (text : List Char) : Option (Nat × List Char) :=
  let (digits, rest) := flags.takeAll Char.isDigit (text.dropWhile Unicode.isBlank)
  let number := Nat.ofDigitChars 10 digits 0
  if digits.isEmpty || 0xFFFFFFFF < number then none
  else some (number, rest.dropWhile Unicode.isBlank)

/-- The bounds of a counted repetition after its opening brace, and what follows them. -/
def bounds? (flags : Flags) (text : List Char) : Option ((Nat × Option Nat) × List Char) := do
  let (least, rest) ← decimal? flags (flags.skip text)
  match rest with
  | ',' :: rest =>
    match flags.skip rest with
    | '\x7d' :: rest => return ((least, none), rest)
    | rest =>
      match ← decimal? flags rest with
      | (most, '\x7d' :: rest) => if least ≤ most then return ((least, some most), rest) else none
      | _ => none
  | '\x7d' :: rest => return ((least, some least), rest)
  | _ => none

/-- A repetition may be followed by a mark that makes it short, which does not change whether a
pattern matches. -/
def dropShortMark : List Char → List Char
  | '?' :: rest => rest
  | rest => rest

/-- A counted repetition after its opening brace. -/
def counted? (flags : Flags) (text : List Char) : Option (Token × List Char) := do
  let ((least, most), rest) ← bounds? flags text
  return (iterate least most, dropShortMark (flags.skip rest))

/-- The name of a group begins with a letter or a low line. -/
def isGroupName (name : List Char) : Bool :=
  (name.head?.any fun c => Unicode.isAlphabetic c || c == '_') &&
    name.all fun c => Unicode.isAlphabetic c || Unicode.isNumeric c || "_.[]".toList.contains c

/-- A group with a name, after the bracket that opens the name. -/
def namedGroup? (text : List Char) : Option (Token × List Char) := do
  let name := text.takeWhile (· != '>')
  let rest ← (text.drop name.length).tail?
  if isGroupName name then return (openGroup (.numbered (some (String.ofList name))), rest)
  else none

/-- What follows an opening parenthesis. -/
def group? : List Char → Option (Token × List Char)
  | '?' :: 'P' :: '<' :: rest => namedGroup? rest
  | '?' :: '<' :: rest => namedGroup? rest
  | '?' :: rest => do
    let letters := rest.takeWhile fun c => c != ')' && c != ':'
    let flags ← Flags.change? letters
    match rest.drop letters.length with
    | ':' :: rest => return (openGroup (.plain flags), rest)
    | ')' :: rest => if letters.isEmpty then none else return (change flags, rest)
    | _ => none
  | rest => some (openGroup (.numbered none), rest)

/-- The token at the front of a pattern. -/
def next? (flags : Flags) : List Char → Option (Token × List Char)
  | [] => none
  | '\\' :: rest =>
    (Escape.read? flags rest).map fun (escape, rest) => (ofEscape flags escape, rest)
  | '[' :: rest =>
    (Bracket.set? flags (2 * rest.length + 2) rest).map fun (inner, rest) =>
      (item (.ofSet inner.set) inner.depth, rest)
  | '(' :: rest => group? (flags.skip rest)
  | ')' :: rest => some (closeGroup, rest)
  | '|' :: rest => some (alternative, rest)
  | '.' :: rest => (dot? flags).map (·, rest)
  | '^' :: rest => some (lineStart flags, rest)
  | '$' :: rest => some (lineEnd flags, rest)
  | '*' :: rest => some (iterate 0 none, dropShortMark rest)
  | '+' :: rest => some (iterate 1 none, dropShortMark rest)
  | '?' :: rest => some (iterate 0 (some 1), dropShortMark rest)
  | '\x7b' :: rest => counted? flags rest
  | c :: rest => some (char flags c, rest)

end Token

end GivenWhenThen.Pattern
