/-! Tables of characters: a property as a list of ranges, and a mapping as a list of runs of
characters that are moved by one distance. -/

namespace GivenWhenThen.Unicode

/-- Closed ranges of code points, in ascending order and apart from each other. -/
abbrev Ranges := List (Nat × Nat)

namespace Ranges

/-- The code point lies in one of the ranges: the first range that does not end before it is the
only one that can hold it. -/
def hasPoint (ranges : Ranges) (n : Nat) : Bool :=
  match ranges.find? (n ≤ ·.2) with
  | some (first, _) => first ≤ n
  | none => false

def has (ranges : Ranges) (c : Char) : Bool := ranges.hasPoint c.toNat

/-- The range from `first` to `last` and then ranges that begin no earlier, in ascending order of
their beginnings, where those that touch are joined. -/
def joinFrom (first last : Nat) : List (Nat × Nat) → Ranges
  | [] => [(first, last)]
  | (next, stop) :: rest =>
    if next ≤ last + 1 then joinFrom first (max last stop) rest
    else (first, last) :: joinFrom next stop rest

/-- The code points of ranges in any order. -/
def ofList (ranges : List (Nat × Nat)) : Ranges :=
  match ranges.mergeSort fun a b => a.1 ≤ b.1 with
  | [] => []
  | (first, last) :: rest => joinFrom first last rest

/-- The code points from `start` to `stop` that lie between the ranges. -/
def gaps (start stop : Nat) : Ranges → Ranges
  | [] => if start ≤ stop then [(start, stop)] else []
  | (first, last) :: rest =>
    if start < first then (start, first - 1) :: gaps (last + 1) stop rest
    else gaps (last + 1) stop rest

end Ranges

/-- The code points `first`, `first + stride`, …, `last`, each mapped to the one `distance` away. -/
structure Run where
  first : Nat
  last : Nat
  stride : Nat
  distance : Int

namespace Run

def has (run : Run) (n : Nat) : Bool :=
  run.first ≤ n && n ≤ run.last && (n - run.first) % run.stride == 0

/-- The code points that the run maps. -/
def points (run : Run) : List Nat :=
  (List.range ((run.last - run.first) / run.stride + 1)).map (run.first + run.stride * ·)

/-- The code point that the run maps `n` to. -/
def target (run : Run) (n : Nat) : Nat := (n + run.distance).toNat

/-- The image of a character under the first run that has it; other characters stay. -/
def apply (runs : List Run) (c : Char) : Char :=
  match runs.find? (·.has c.toNat) with
  | some run => Char.ofNat (run.target c.toNat)
  | none => c

end Run

end GivenWhenThen.Unicode
