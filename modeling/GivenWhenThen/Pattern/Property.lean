import GivenWhenThen.Pattern.CharSet
import GivenWhenThen.Unicode.Category.Letter
import GivenWhenThen.Unicode.Category.Mark
import GivenWhenThen.Unicode.Category.Number
import GivenWhenThen.Unicode.Category.Other
import GivenWhenThen.Unicode.Category.Punctuation
import GivenWhenThen.Unicode.Category.Symbol
import GivenWhenThen.Unicode.Property
import GivenWhenThen.Unicode.Script

/-! Sets of characters with a common property: a general category, a script, or one of a few
others. -/

namespace GivenWhenThen.CharSet.Property

open Unicode Unicode.Category

/-- Names count without capitals, blanks, dashes, low lines, and an `is` in front. The name `isc`
does not mean `c`. -/
def normalName (name : List Char) : String :=
  let lower := name.map Char.toLower
  let bare := if ['i', 's'].isPrefixOf lower then lower.drop 2 else lower
  let letters := bare.filter fun c => c.toNat < 0x80 && !" _-".toList.contains c
  if letters = ['c'] && bare.length < lower.length then "isc" else String.ofList letters

def unionOf (tables : List Ranges) : CharSet := ofRanges tables.flatten

def cased : List Ranges := [uppercaseLetter, lowercaseLetter, titlecaseLetter]

def letters : List Ranges := cased ++ [modifierLetter, otherLetter]

def marks : List Ranges := [nonspacingMark, spacingMark, enclosingMark]

def numbers : List Ranges := [decimalDigitRanges, letterNumber, otherNumber]

def punctuation : List Ranges :=
  [connectorPunctuation, dashPunctuation, openPunctuation, closePunctuation, initialPunctuation,
   finalPunctuation, otherPunctuation]

def symbols : List Ranges := [mathSymbol, currencySymbol, modifierSymbol, otherSymbol]

def separators : List Ranges := [spaceSeparator, lineSeparator, paragraphSeparator]

/-- The characters with a form of their own. -/
def visible : List Ranges := letters ++ marks ++ numbers ++ punctuation ++ symbols ++ separators

/-- The characters that have been assigned. -/
def assigned : List Ranges := visible ++ [control, format, privateUse]

/-- The general categories and their groups, each with its names. -/
def categories : List (List String × List Ranges) :=
  [(["l", "letter"], letters), (["lc", "casedletter"], cased),
   (["lu", "uppercaseletter"], [uppercaseLetter]), (["ll", "lowercaseletter"], [lowercaseLetter]),
   (["lt", "titlecaseletter"], [titlecaseLetter]), (["lm", "modifierletter"], [modifierLetter]),
   (["lo", "otherletter"], [otherLetter]), (["m", "mark", "combiningmark"], marks),
   (["mn", "nonspacingmark"], [nonspacingMark]), (["mc", "spacingmark"], [spacingMark]),
   (["me", "enclosingmark"], [enclosingMark]), (["n", "number"], numbers),
   (["nd", "decimalnumber", "digit"], [decimalDigitRanges]),
   (["nl", "letternumber"], [letterNumber]), (["no", "othernumber"], [otherNumber]),
   (["p", "punctuation", "punct"], punctuation),
   (["pc", "connectorpunctuation"], [connectorPunctuation]),
   (["pd", "dashpunctuation"], [dashPunctuation]), (["ps", "openpunctuation"], [openPunctuation]),
   (["pe", "closepunctuation"], [closePunctuation]),
   (["pi", "initialpunctuation"], [initialPunctuation]),
   (["pf", "finalpunctuation"], [finalPunctuation]),
   (["po", "otherpunctuation"], [otherPunctuation]), (["s", "symbol"], symbols),
   (["sm", "mathsymbol"], [mathSymbol]), (["sc", "currencysymbol"], [currencySymbol]),
   (["sk", "modifiersymbol"], [modifierSymbol]), (["so", "othersymbol"], [otherSymbol]),
   (["z", "separator"], separators), (["zs", "spaceseparator"], [spaceSeparator]),
   (["zl", "lineseparator"], [lineSeparator]),
   (["zp", "paragraphseparator"], [paragraphSeparator]), (["cc", "control", "cntrl"], [control]),
   (["cf", "format"], [format]), (["co", "privateuse"], [privateUse]), (["assigned"], assigned)]

/-- The set of a general category. -/
def category? (name : String) : Option CharSet :=
  match name with
  | "any" => some full
  | "ascii" => some (range '\x00' '\x7f')
  | "cn" | "unassigned" => some (complement (unionOf assigned))
  | "c" | "other" => some (complement (unionOf visible))
  | _ => (categories.find? (·.1.contains name)).map fun (_, tables) => unionOf tables

/-- The set of a script. -/
def script? (name : String) : Option CharSet :=
  (scripts.find? (·.1.contains name)).map fun (_, table) => ofRanges table

/-- The set of a property that a character either has or does not have. -/
def binary? (name : String) : Option CharSet :=
  match name with
  | "alphabetic" | "alpha" => some (unionOf (otherAlphabeticRanges :: letterNumber :: letters))
  | "lowercase" | "lower" => some (unionOf [lowercaseLetter, otherLowercaseRanges])
  | "uppercase" | "upper" => some (unionOf [uppercaseLetter, otherUppercaseRanges])
  | "whitespace" | "wspace" | "space" => some blank
  | "emoji" => some (ofRanges emojiRanges)
  | _ => none

/-- The set of a property and a value of it. -/
def valued? (property value : String) : Option CharSet :=
  match property with
  | "gc" | "generalcategory" => category? value
  | "sc" | "script" => script? value
  | _ => none

/-- The set that is named by itself. -/
def named? (name : String) : Option CharSet := binary? name <|> category? name <|> script? name

/-- The set with the given description: a name, or a property and its value with `=`, `:` or `!=`
between them. The signs mean the same. -/
def ofText? (text : List Char) : Option CharSet :=
  let property := text.takeWhile fun c => c != '=' && c != ':'
  match text.drop property.length with
  | [] => named? (normalName text)
  | sign :: value =>
    let unequal := sign == '=' && property.getLast? == some '!'
    valued? (normalName (if unequal then property.dropLast else property)) (normalName value)

end GivenWhenThen.CharSet.Property
