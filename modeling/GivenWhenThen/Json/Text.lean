import GivenWhenThen.Json.Basic

/-! The compact text of a JSON value: no blanks, and of the characters of a string only quotes,
backslashes and those below U+0020 escaped. `Json.sorted` puts the fields of every object in
ascending order of their keys. -/

namespace GivenWhenThen.Json

/-- The escape of a character that may not stand for itself in a string. -/
def escape? (c : Char) : Option (List Char) :=
  match c with
  | '"' => some ['\\', '"']
  | '\\' => some ['\\', '\\']
  | '\n' => some ['\\', 'n']
  | '\r' => some ['\\', 'r']
  | '\t' => some ['\\', 't']
  | '\x08' => some ['\\', 'b']
  | '\x0c' => some ['\\', 'f']
  | c =>
    if c.toNat < 0x20 then
      some ['\\', 'u', '0', '0', (c.toNat / 16).digitChar, (c.toNat % 16).digitChar]
    else none

/-- The characters of a string between its quotes. -/
def escape : List Char → List Char
  | [] => []
  | c :: rest => (escape? c).getD [c] ++ escape rest

/-- A string in quotes. -/
def quote (s : String) : String := "\"" ++ String.ofList (escape s.toList) ++ "\""

mutual

/-- The compact text of a value, its fields in the order they are listed. -/
def text [FloatText] : Json → String
  | null => "null"
  | bool b => if b then "true" else "false"
  | number n => n.text
  | string s => quote s
  | array items => "[" ++ textItems items ++ "]"
  | object fields => "\x7b" ++ textFields fields ++ "\x7d"

def textItems [FloatText] : List Json → String
  | [] => ""
  | [x] => text x
  | x :: xs => text x ++ "," ++ textItems xs

def textFields [FloatText] : List (String × Json) → String
  | [] => ""
  | [(k, x)] => quote k ++ ":" ++ text x
  | (k, x) :: fs => quote k ++ ":" ++ text x ++ "," ++ textFields fs

end

/-- Puts a field at its place among fields in ascending order, in place of a field with the same
key. -/
def insertField (key : String) (value : Json) : List (String × Json) → List (String × Json)
  | [] => [(key, value)]
  | (k, x) :: rest =>
    if key < k then (key, value) :: (k, x) :: rest
    else if key = k then (key, value) :: rest
    else (k, x) :: insertField key value rest

/-- The fields in ascending order of their keys; of two fields with one key the later stays. -/
def sortFields (fields : List (String × Json)) : List (String × Json) :=
  fields.foldl (fun sorted (k, x) => insertField k x sorted) []

mutual

/-- The value with the fields of every object in ascending order of their keys. -/
def sorted : Json → Json
  | array items => array (sortedItems items)
  | object fields => object (sortFields (sortedFields fields))
  | value => value

def sortedItems : List Json → List Json
  | [] => []
  | x :: xs => sorted x :: sortedItems xs

def sortedFields : List (String × Json) → List (String × Json)
  | [] => []
  | (k, x) :: fs => (k, sorted x) :: sortedFields fs

end

end GivenWhenThen.Json
