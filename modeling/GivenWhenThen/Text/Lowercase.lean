import GivenWhenThen.Unicode.Lowercase
import GivenWhenThen.Unicode.Cased
import GivenWhenThen.Unicode.CaseIgnorable

/-! The lowercase form of a text. A capital sigma that ends a word becomes a final sigma: it stands
after a cased character and not before one, where case-ignorable characters between do not count. -/

namespace GivenWhenThen.Text

open Unicode

/-- The first character that is not case-ignorable is there and cased. -/
def startsCased (chars : List Char) : Bool :=
  match chars.dropWhile isCaseIgnorable with
  | c :: _ => isCased c
  | [] => false

/-- The lowercase form of a character that stands after `before`, last character first, and before
`after`. -/
def lowercaseAt (before : List Char) (c : Char) (after : List Char) : List Char :=
  if c = 'Σ' then [if startsCased before && !startsCased after then 'ς' else 'σ']
  else if c = 'İ' then ['i', '\u0307']
  else [lowercaseChar c]

/-- The lowercase form of characters that stand after `before`, last character first. -/
def lowercaseAfter (before : List Char) : List Char → List Char
  | [] => []
  | c :: after => lowercaseAt before c after ++ lowercaseAfter (c :: before) after

def lowercase (s : String) : String := String.ofList (lowercaseAfter [] s.toList)

/-- Two texts are equal up to case. -/
def equalsIgnoringCase (s t : String) : Bool := lowercase s == lowercase t

/-- `part` occurs in a list as a block of neighbours. -/
def occursIn (part : List Char) : List Char → Bool
  | [] => part.isEmpty
  | c :: rest => part.isPrefixOf (c :: rest) || occursIn part rest

/-- `part` occurs in `whole` up to case. -/
def containsIgnoringCase (whole part : String) : Bool :=
  occursIn (lowercase part).toList (lowercase whole).toList

end GivenWhenThen.Text
