import GivenWhenThen.Unicode.Blank
import GivenWhenThen.Unicode.CaseFolding
import GivenWhenThen.Unicode.DecimalDigit
import GivenWhenThen.Unicode.Word

/-! Sets of characters, and their closure under the rules by which characters count as equal up to
case. -/

namespace GivenWhenThen

/-- A set of characters, as ranges of code points without surrogates. Each set is written in one
way only. -/
structure CharSet where
  ranges : Unicode.Ranges
deriving DecidableEq, Repr

namespace CharSet

/-- The parts of a range of code points before and after the surrogates. -/
def scalars : Nat × Nat → List (Nat × Nat)
  | (first, last) =>
    [(first, min last 0xD7FF), (max first 0xE000, last)].filter fun (a, b) => a ≤ b

/-- The characters in ranges of any order. -/
def ofRanges (ranges : List (Nat × Nat)) : CharSet := ⟨.ofList (ranges.flatMap scalars)⟩

/-- The characters from `first` to `last`. -/
def range (first last : Char) : CharSet := ofRanges [(first.toNat, last.toNat)]

def single (c : Char) : CharSet := ⟨[(c.toNat, c.toNat)]⟩

def nothing : CharSet := ⟨[]⟩

/-- All characters. -/
def full : CharSet := ofRanges [(0, 0x10FFFF)]

/-- The decimal digits of all scripts. -/
def digit : CharSet := ofRanges Unicode.decimalDigitRanges

/-- The word characters of all scripts. -/
def word : CharSet := ofRanges Unicode.wordRanges

def blank : CharSet := ofRanges Unicode.blankRanges

def has (set : CharSet) (c : Char) : Bool := set.ranges.has c

def isEmpty (set : CharSet) : Bool := set.ranges.isEmpty

/-- How many characters the set has. -/
def size (set : CharSet) : Nat :=
  set.ranges.foldl (fun size (first, last) => size + (last + 1 - first)) 0

/-- The characters of the set, in ascending order. -/
def toList (set : CharSet) : List Char :=
  set.ranges.flatMap fun (first, last) => (List.range' first (last + 1 - first)).map Char.ofNat

/-- The character of a set that has just one. -/
def only? (set : CharSet) : Option Char :=
  match set.ranges with
  | [(first, last)] => if first = last then some (Char.ofNat first) else none
  | _ => none

/-- The characters of all the sets. -/
def unionAll (sets : List CharSet) : CharSet := ofRanges (sets.flatMap (·.ranges))

def union (a b : CharSet) : CharSet := unionAll [a, b]

def complement (set : CharSet) : CharSet := ofRanges (set.ranges.gaps 0 0x10FFFF)

def inter (a b : CharSet) : CharSet := complement (union a.complement b.complement)

def diff (a b : CharSet) : CharSet := inter a b.complement

def symmDiff (a b : CharSet) : CharSet := union (diff a b) (diff b a)

/-- The set with all characters that the runs take to the same one as a character of the set. -/
def closure (runs : List Unicode.Run) (set : CharSet) : CharSet :=
  let ofPoints (points : List Nat) : CharSet := ofRanges (points.map fun n => (n, n))
  let images := runs.flatMap fun run => (run.points.filter set.ranges.hasPoint).map run.target
  let whole := set.union (ofPoints images)
  let sources := runs.flatMap fun run => run.points.filter (whole.ranges.hasPoint <| run.target ·)
  whole.union (ofPoints sources)

end CharSet

/-- Which characters are equal up to case: none but equal ones, the ASCII letters, or all that
have the same folding. -/
inductive CaseRule where
  | exact
  | ascii
  | unicode
deriving DecidableEq, Repr

namespace CaseRule

/-- The characters that have another folding. -/
def runs : CaseRule → List Unicode.Run
  | exact => []
  | ascii => [⟨0x41, 0x5A, 1, 32⟩]
  | unicode => Unicode.foldingRuns

/-- The characters that are equal to one of the set up to case. -/
def close (rule : CaseRule) (set : CharSet) : CharSet :=
  if rule = exact then set else set.closure rule.runs

end CaseRule

end GivenWhenThen
