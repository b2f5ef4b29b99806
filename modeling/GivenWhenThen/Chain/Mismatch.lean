import GivenWhenThen.Chain.Placement

/-! Why the events of a stream do not satisfy a chain, and the diagnostic that says so. -/

namespace GivenWhenThen

inductive Mismatch where
  /-- There are events, but none are expected. -/
  | notEmpty
  /-- The event with this index is excluded by a gap with so many exclusions. -/
  | excluded (exclusions : Nat) (index : Nat)
  /-- A block was missed. -/
  | missed (order : Order) (expected : List Canonical) (miss : Miss)
deriving DecidableEq, Repr

/-- The first published event that the miss points at. -/
def Miss.publishedIndex? : Miss → Option Nat
  | notFound _ => none
  | unexpected index => some index
  | seriesNotFound first _ | trailing first _ => some first

/-- The first published event that the mismatch points at. -/
def Mismatch.publishedIndex? : Mismatch → Option Nat
  | notEmpty => some 0
  | excluded _ index => some index
  | missed _ _ miss => miss.publishedIndex?

def indexText (index : Nat) : String := "[" ++ toString index ++ "]"

def rangeText (first last : Nat) : String := "[" ++ toString first ++ ".." ++ toString last ++ "]"

def unexpectedText (index : Nat) : String :=
  "Unexpected published event found at " ++ indexText index ++ "."

def Miss.text : Miss → String
  | notFound index => "Expected event " ++ indexText index ++ " not found."
  | unexpected index => unexpectedText index
  | seriesNotFound first last =>
    "Expected series of events not found in range " ++ rangeText first last ++ "."
  | trailing first last =>
    if first = last then unexpectedText first
    else "Unexpected published events found in range " ++ rangeText first last ++ "."

namespace Canonical

/-- Each event under its index and tag. -/
def listText (events : List Canonical) : String :=
  "\n".intercalate (events.zipIdx.map fun (event, index) =>
    toString index ++ ". [" ++ event.tag ++ "]\n" ++ event.content)

/-- The published events, as they close every diagnostic. -/
def publishedText (published : List Canonical) : String :=
  "Published events:\n" ++ listText published ++ "\n"

end Canonical

/-- The diagnostic of a mismatch between a chain and the published events of a stream. -/
def Mismatch.text (stream : String) (published : List Canonical) : Mismatch → String
  | notEmpty =>
    "No events expected.\n" ++ unexpectedText 0 ++ "\n" ++ Canonical.publishedText published
  | excluded exclusions index =>
    "Expected not to find any event matching " ++ toString exclusions ++ " specified rule" ++
      (if exclusions = 1 then "" else "s") ++ ".\n\n" ++ unexpectedText index ++ "\n" ++
      Canonical.publishedText published
  | missed order expected miss =>
    "Expected following events " ++ order.text ++ ":\n" ++ Canonical.listText expected ++ "\n\n" ++
      if published.isEmpty then "No events were published to the stream '" ++ stream ++ "'.\n"
      else miss.text ++ "\n" ++ Canonical.publishedText published

end GivenWhenThen
