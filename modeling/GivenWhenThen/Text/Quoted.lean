import GivenWhenThen.Unicode.GraphemeExtend
import GivenWhenThen.Unicode.Hidden

/-! Texts in quotes, with escapes for quotes, backslashes, line ends, and every character that has
no glyph of its own or would join the one before it. -/

namespace GivenWhenThen.Text

open Unicode

/-- A voicing mark of halfwidth katakana extends the character before it and yet has a place of its
own in print. -/
def isHalfwidthMark (c : Char) : Bool := c == '\uff9e' || c == '\uff9f'

/-- The characters that stand for `c` inside quotes. -/
def escapeChar (c : Char) : List Char :=
  match c with
  | '"' => ['\\', '"']
  | '\\' => ['\\', '\\']
  | '\n' => ['\\', 'n']
  | '\r' => ['\\', 'r']
  | '\t' => ['\\', 't']
  | '\x00' => ['\\', '0']
  | c =>
    if isHidden c || isGraphemeExtend c && !isHalfwidthMark c then
      ['\\', 'u', '\x7b'] ++ Nat.toDigits 16 c.toNat ++ ['\x7d']
    else [c]

/-- A text in quotes. -/
def quoted (s : String) : String := "\"" ++ String.ofList (s.toList.flatMap escapeChar) ++ "\""

end GivenWhenThen.Text
