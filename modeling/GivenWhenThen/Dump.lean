import GivenWhenThen.Text.Quoted
import GivenWhenThen.OrderedMap

/-! The structured text by which values are shown for debugging: named records and calls, lists,
maps and quoted texts. -/

namespace GivenWhenThen.Dump

/-- A record whose fields are shown as they are listed; one without fields is its name alone. -/
def fieldsOf (name : String) (shown : List String) : String :=
  if shown.isEmpty then name else name ++ " \x7b " ++ ", ".intercalate shown ++ " \x7d"

def field (name value : String) : String := name ++ ": " ++ value

/-- A record with all of its fields. -/
def record (name : String) (fields : List (String × String)) : String :=
  fieldsOf name (fields.map fun (key, value) => field key value)

/-- A record that leaves fields out, which two dots say. -/
def partialRecord (name : String) (fields : List (String × String)) : String :=
  fieldsOf name ((fields.map fun (key, value) => field key value) ++ [".."])

/-- A name applied to arguments. -/
def call (name : String) (arguments : List String) : String :=
  name ++ "(" ++ ", ".intercalate arguments ++ ")"

def list (items : List String) : String := "[" ++ ", ".intercalate items ++ "]"

def map (entries : List (String × String)) : String :=
  "\x7b" ++ ", ".intercalate (entries.map fun (key, value) => field key value) ++ "\x7d"

def option : Option String → String
  | none => "None"
  | some value => call "Some" [value]

def bool (b : Bool) : String := if b then "true" else "false"

def nat (n : Nat) : String := toString n

def text (s : String) : String := Text.quoted s

end GivenWhenThen.Dump
