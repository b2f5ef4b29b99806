import GivenWhenThen.Error

/-! What may be wrong with a pattern, and how an unreadable pattern is listed in the report about
it. -/

namespace GivenWhenThen.Pattern

/-- The lines of a pattern without their ends, and the width of the numbers in front of them, which
a pattern of one line does without. A line feed at the end begins a line that is numbered but not
listed. -/
structure Listing where
  lines : List String
  numberWidth : Nat
deriving DecidableEq, Repr

namespace Listing

/-- A line without a carriage return at its end. -/
def dropReturn (line : String) : String :=
  match line.toList.reverse with
  | '\r' :: rest => String.ofList rest.reverse
  | _ => line

def ofText (text : String) : Listing :=
  let pieces := text.splitOn "\n"
  let last := pieces.getLast?.filter (· != "")
  { lines := pieces.dropLast.map dropReturn ++ last.toList
    numberWidth := if pieces.length ≤ 1 then 0 else (toString pieces.length).length }

/-- What stands in front of the line with an index. -/
def margin (listing : Listing) (index : Nat) : String :=
  if listing.numberWidth = 0 then "    "
  else
    let number := toString (index + 1)
    String.ofList (List.replicate (listing.numberWidth - number.length) ' ') ++ number ++ ": "

def text (listing : Listing) : String :=
  "\n".intercalate
    (listing.lines.zipIdx.map fun (line, index) => listing.margin index ++ line)

end Listing

/-- What is wrong with a pattern. Two unreadable patterns with the same listing have the same
defect, and so have all patterns that are too large. -/
inductive Defect where
  | unreadable (listing : Listing)
  | tooLarge
deriving DecidableEq, Repr

/-- The bytes that each automaton of a pattern may take. -/
def maxFootprint : Nat := 10485760

/-- The report about a defect. -/
def Defect.report : Defect → PatternError
  | unreadable listing =>
    { text := "regex parse error:\n" ++ listing.text
      dump := Dump.text ("\n".intercalate listing.lines) }
  | tooLarge =>
    { text := "Compiled regex exceeds size limit of " ++ toString maxFootprint ++ " bytes."
      dump := Dump.call "CompiledTooBig" [toString maxFootprint] }

end GivenWhenThen.Pattern
