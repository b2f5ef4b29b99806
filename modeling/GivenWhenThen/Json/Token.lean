import GivenWhenThen.Json.Basic

/-! The tokens of a JSON text. `Lexer.step` reads one character, so that a text is read by a fold
over its characters. -/

namespace GivenWhenThen.Json

inductive Token where
  | openArray
  | closeArray
  | openObject
  | closeObject
  | comma
  | colon
  | value (value : Json)

namespace Token

/-- Appends digits to a significand as long as it fits 64 bits, and leaves the other digits. -/
def appendFitting (significand : Nat) : List Char → Nat × List Char
  | [] => (significand, [])
  | digit :: rest =>
    let longer := 10 * significand + (digit.toNat - '0'.toNat)
    if longer ≤ 0xFFFFFFFFFFFFFFFF then appendFitting longer rest else (significand, digit :: rest)

/-- The number with the given literal: an integer if it is written as one and fits 64 bits, and
a float otherwise. Of the digits of a float, those that no longer fit 64 bits count as zeros. -/
def number? (literal : List Char) : Option Json :=
  let negative := literal.head? == some '-'
  let unsigned := if negative then literal.drop 1 else literal
  let whole := unsigned.takeWhile Char.isDigit
  let afterWhole := unsigned.drop whole.length
  let fraction? := if afterWhole.head? == some '.' then
      some ((afterWhole.drop 1).takeWhile Char.isDigit) else none
  let afterFraction := match fraction? with
    | some fraction => afterWhole.drop (fraction.length + 1)
    | none => afterWhole
  let power? := match afterFraction with
    | [] => some 0
    | mark :: rest =>
      if mark == 'e' || mark == 'E' then
        let digits := if rest.head? == some '-' || rest.head? == some '+' then rest.drop 1 else rest
        if digits.isEmpty || !digits.all Char.isDigit then none
        else
          let magnitude : Int := Nat.ofDigitChars 10 digits 0
          some (if rest.head? == some '-' then -magnitude else magnitude)
      else none
  let leadingZero := 1 < whole.length && whole.head? == some '0'
  if whole.isEmpty || leadingZero || fraction? == some [] then none
  else
    let isInteger := fraction?.isNone && afterFraction.isEmpty
    let magnitude := Nat.ofDigitChars 10 whole 0
    if isInteger && negative && 0 < magnitude && magnitude ≤ 0x8000000000000000 then
      some (.number (.int (-magnitude)))
    else if isInteger && !negative && magnitude ≤ 0xFFFFFFFFFFFFFFFF then
      some (.number (.int magnitude))
    else do
      let power ← power?
      let fraction := fraction?.getD []
      let (significand, cut) := appendFitting 0 whole
      let (significand, unread) := appendFitting significand fraction
      let float ← Binary64.ofScaled? negative significand
        (power + cut.length - (fraction.length - unread.length : Nat))
      return .number (.float float)

/-- The value of a literal outside quotes. -/
def literal? (literal : List Char) : Option Json :=
  match String.ofList literal with
  | "null" => some .null
  | "true" => some (.bool true)
  | "false" => some (.bool false)
  | _ => number? literal

/-- The token of a character that is one by itself. -/
def punctuation? : Char → Option Token
  | '[' => some .openArray
  | ']' => some .closeArray
  | '\x7b' => some .openObject
  | '\x7d' => some .closeObject
  | ',' => some .comma
  | ':' => some .colon
  | _ => none

end Token

/-- What the characters read so far have begun: nothing, a literal, or a string whose characters
stand last first. `surrogate` is the first half of a pair of escapes. -/
inductive Lexer.Mode where
  | between
  | literal (done : List Char)
  | string (done : List Char)
  | escape (done : List Char)
  | hex (done : List Char) (surrogate : Option Nat) (digits : Nat) (value : Nat)
  | pair (done : List Char) (surrogate : Nat)
  | pairEscape (done : List Char) (surrogate : Nat)

/-- The tokens read so far, last first, and the token in progress. -/
structure Lexer where
  tokens : List Token := []
  mode : Lexer.Mode := .between

namespace Lexer

def isBlank (c : Char) : Bool := c == ' ' || c == '\n' || c == '\r' || c == '\t'

/-- The value of a hexadecimal digit. -/
def hexValue? (c : Char) : Option Nat :=
  if '0' ≤ c ∧ c ≤ '9' then some (c.toNat - '0'.toNat)
  else if 'a' ≤ c ∧ c ≤ 'f' then some (c.toNat - 'a'.toNat + 10)
  else if 'A' ≤ c ∧ c ≤ 'F' then some (c.toNat - 'A'.toNat + 10)
  else none

/-- The character that a one-letter escape stands for. -/
def unescape? : Char → Option Char
  | '"' => some '"'
  | '\\' => some '\\'
  | '/' => some '/'
  | 'n' => some '\n'
  | 'r' => some '\r'
  | 't' => some '\t'
  | 'b' => some '\x08'
  | 'f' => some '\x0c'
  | _ => none

/-- Ends the escape of the code unit `unit`, which must make a character alone or with the
surrogate before it. -/
def closeHex (done : List Char) (surrogate : Option Nat) (unit : Nat) : Option Mode :=
  match surrogate with
  | none =>
    if 0xD800 ≤ unit ∧ unit < 0xDC00 then some (.pair done unit)
    else if 0xDC00 ≤ unit ∧ unit < 0xE000 then none
    else some (.string (Char.ofNat unit :: done))
  | some high =>
    if 0xDC00 ≤ unit ∧ unit < 0xE000 then
      some (.string (Char.ofNat (0x10000 + (high - 0xD800) * 0x400 + (unit - 0xDC00)) :: done))
    else none

/-- Reads a character where a token may begin. -/
def start (tokens : List Token) (c : Char) : Option Lexer :=
  if isBlank c then some { tokens }
  else if c == '"' then some { tokens, mode := .string [] }
  else match Token.punctuation? c with
    | some token => some { tokens := token :: tokens }
    | none => some { tokens, mode := .literal [c] }

/-- The literal in progress as a token. -/
def closeLiteral (tokens : List Token) (done : List Char) : Option (List Token) :=
  (Token.literal? done.reverse).map fun value => .value value :: tokens

def step (lexer : Lexer) (c : Char) : Option Lexer :=
  let { tokens, mode } := lexer
  match mode with
  | .between => start tokens c
  | .literal done =>
    if isBlank c || c == '"' || (Token.punctuation? c).isSome then do
      start (← closeLiteral tokens done) c
    else some { tokens, mode := .literal (c :: done) }
  | .string done =>
    if c == '"' then some { tokens := .value (.string (String.ofList done.reverse)) :: tokens }
    else if c == '\\' then some { tokens, mode := .escape done }
    else if c.toNat < 0x20 then none
    else some { tokens, mode := .string (c :: done) }
  | .escape done =>
    if c == 'u' then some { tokens, mode := .hex done none 0 0 }
    else (unescape? c).map fun plain => { tokens, mode := .string (plain :: done) }
  | .hex done surrogate digits value => do
    let digit ← hexValue? c
    let unit := 16 * value + digit
    if digits = 3 then return { tokens, mode := ← closeHex done surrogate unit }
    else return { tokens, mode := .hex done surrogate (digits + 1) unit }
  | .pair done surrogate =>
    if c == '\\' then some { tokens, mode := .pairEscape done surrogate } else none
  | .pairEscape done surrogate =>
    if c == 'u' then some { tokens, mode := .hex done (some surrogate) 0 0 } else none

/-- The tokens of the text read, if no string is left open. -/
def finish (lexer : Lexer) : Option (List Token) :=
  match lexer.mode with
  | .between => some lexer.tokens.reverse
  | .literal done => (closeLiteral lexer.tokens done).map List.reverse
  | _ => none

end Lexer

/-- The tokens of a text. -/
def tokens? (text : String) : Option (List Token) := do
  (← text.toList.foldlM Lexer.step {}).finish

end GivenWhenThen.Json
