import GivenWhenThen.Pattern.Basic
import GivenWhenThen.Pattern.Defect
import GivenWhenThen.Pattern.Spelled
import GivenWhenThen.Unicode.Utf8

/-! How much memory a pattern takes. A pattern stands for two automata over the bytes of UTF-8, one
that reads a text forward and one that reads it backward. Their size follows from the form of the
pattern: a part that repeats is there as often as it may be passed, and the size of a set of
characters is that of the rows of byte ranges in which it is written. -/

namespace GivenWhenThen.Pattern

/-- The direction in which an automaton reads. Only a forward automaton keeps track of groups. -/
inductive Direction where
  | forward
  | backward
deriving DecidableEq, Repr

namespace Footprint

open Unicode.Utf8 (ByteRange Row)

/-- The bytes of a state that reads one range of bytes, or that reads nothing and goes on. -/
def state : Nat := 32

/-- The bytes of each further way out of a state that reads nothing. -/
def way : Nat := 4

/-- The bytes of a state with a table of several ranges that it may read. -/
def table (ranges : Nat) : Nat := state + 8 * ranges

/-- The bytes of all the parts together. -/
def total {α : Type} (size : α → Nat) (parts : List α) : Nat :=
  parts.foldl (fun sum part => sum + size part) 0

/-! ### Sets of characters -/

/-- Rows by their first range: each of these with what is left of the rows that begin with it. -/
def byHead : List Row → List (ByteRange × List Row)
  | [] => []
  | [] :: rest => byHead rest
  | (head :: tail) :: rest =>
    match byHead rest with
    | (next, tails) :: others =>
      if next = head then (head, tail :: tails) :: others
      else (head, [tail]) :: (next, tails) :: others
    | [] => [(head, [tail])]

/-- What is left of the rows after fewer than `length` bytes, as often as it is reached. -/
def rests : (length : Nat) → List Row → List (List Row)
  | 0, _ => []
  | length + 1, rows => rows :: (byHead rows).flatMap fun (_, tails) => rests length tails

/-- The states that read rows forward. States with the same rows left are one, and the last one has
nothing left to read. -/
def forwardRows (rows : List Row) : Nat :=
  let states := ((rests 4 rows).filter fun rows => rows.any (!·.isEmpty)).eraseDups
  state + total (fun rows => table (byHead rows).length) states

/-- The ranges of a row after those that it shares with the row before. -/
def unshared : (before row : Row) → Row
  | b :: before, r :: row => if b = r then unshared before row else r :: row
  | _, row => row

/-- The states that read rows backward, which part at once and meet as they come to ranges that the
rows share at their beginning. -/
def backwardRows (before : Row) : List Row → Nat
  | [] => 2 * state
  | row :: rest => way + state * (unshared before row).length + backwardRows row rest

/-- The states for one character of the set. A set of ASCII characters is one table. -/
def ofSet (direction : Direction) (set : CharSet) : Nat :=
  if set.ranges.all fun (_, last) => last < 0x80 then state + table set.ranges.length
  else
    let rows := set.ranges.flatMap fun (first, last) => Unicode.Utf8.rows first last
    match direction with
    | .forward => forwardRows rows
    | .backward => backwardRows [] rows

/-! ### Choices between words -/

/-- The bytes of a text, in the order in which they are read. -/
def bytes (direction : Direction) (chars : List Char) : List UInt8 :=
  let bytes := (String.ofList chars).toUTF8.toList
  match direction with
  | .forward => bytes
  | .backward => bytes.reverse

/-- The runs of words between those that are empty. -/
def splitAtEmpty : List (List UInt8) → List (List (List UInt8))
  | [] => [[]]
  | [] :: rest => [] :: splitAtEmpty rest
  | word :: rest =>
    match splitAtEmpty rest with
    | run :: runs => (word :: run) :: runs
    | [] => [[word]]

/-- The states of a tree that reads one of the words, all of them shorter than `length`, the earlier
of them first: a word that ends inside the tree parts the words before it from those after it, and
counts once if there are none before it. -/
def tree : (length : Nat) → List (List UInt8) → Nat
  | 0, _ => 0
  | length + 1, words =>
    if words.all List.isEmpty then 0
    else
      let runs :=
        match splitAtEmpty words with
        | [] :: rest => [] :: rest.dropWhile List.isEmpty
        | runs => runs
      let branch (words : List (List UInt8)) : Nat :=
        let heads := (words.filterMap List.head?).eraseDups
        let below (head : UInt8) : Nat :=
          tree length ((words.filter (·.head? == some head)).map (·.drop 1))
        let here := match heads.length with
          | 0 => 0
          | 1 => way + state
          | count => way + table count
        here + total below heads
      state + way * (runs.length - 1) + total branch runs

/-- The states of a choice between words, which make one tree, or between patterns that are not all
of them words and have the given states. -/
def ofChoice (direction : Direction) (patterns : List Pattern) (states : Nat) : Nat :=
  let word? (p : Pattern) : Option (List UInt8) :=
    match p with
    | literal chars => some (bytes direction chars)
    | _ => none
  match patterns.mapM word? with
  | some words => state + tree ((words.map List.length).foldl max 0 + 1) words
  | none => 2 * state + way * patterns.length + states

/-! ### Patterns -/

/-- Each set in the pattern has a character. -/
def hasNoEmptySet : Pattern → Bool
  | empty | literal _ | anchor _ => true
  | char set => !set.isEmpty
  | group _ p | times p _ _ => hasNoEmptySet p
  | seq p q | alt p q => hasNoEmptySet p && hasNoEmptySet q

/-- The pattern does not match the empty text. -/
def needsText : Pattern → Bool
  | empty | anchor _ => false
  | literal _ | char _ => true
  | group _ p => needsText p
  | seq p q => needsText p || needsText q
  | alt p q => needsText p && needsText q
  | times p least _ => 0 < least && needsText p

/-- The states of a repetition of a pattern that has `once` states. One without bounds goes back
through a single state if each round reads a text for certain. -/
def ofTimes (p : Pattern) (once least : Nat) (most : Option Nat) : Nat :=
  match least, most with
  | 0, none =>
    once + if hasNoEmptySet p && needsText p then state + 2 * way else 3 * state + 4 * way
  | least, none => least * once + state + 2 * way
  | 0, some 1 => once + 2 * state + 2 * way
  | least, some most =>
    (if least = 0 then state else least * once) +
      if least < most then state + (most - least) * (once + state + 2 * way) else 0

/-- The states of a pattern, of which those of its alternatives are given if it is a choice, and all
of them if it is not. -/
def whole (direction : Direction) (p : Pattern) (states : Nat) : Nat :=
  match p with
  | alt q r => ofChoice direction (alt q r).choices states
  | _ => states

/-- The states of the pattern, or of its alternatives if it is a choice. -/
def states (direction : Direction) : Pattern → Nat
  | empty | anchor _ => state
  | literal chars => state * (bytes direction chars).length
  | char set => ofSet direction set
  | group _ p =>
    let inner := whole direction p (states direction p)
    match direction with
    | .forward => inner + 2 * state
    | .backward => inner
  | seq p q => whole direction p (states direction p) + whole direction q (states direction q)
  | alt p q => states direction p + states direction q
  | times p least most => ofTimes p (whole direction p (states direction p)) least most

/-- The pattern matches at the start of the text only. -/
def startsText : Pattern → Bool
  | anchor .textStart => true
  | empty | literal _ | char _ | anchor _ => false
  | group _ p => startsText p
  | seq p q => startsText p || !p.consumes && startsText q
  | alt p q => startsText p && startsText q
  | times p least _ => 0 < least && startsText p

/-- The pattern matches at the end of the text only. -/
def endsText : Pattern → Bool
  | anchor .textEnd => true
  | empty | literal _ | char _ | anchor _ => false
  | group _ p => endsText p
  | seq p q => endsText q || !q.consumes && endsText p
  | alt p q => endsText p && endsText q
  | times p least _ => 0 < least && endsText p

/-- The states that find the place to begin at. -/
def entry (anchored : Bool) : Nat := if anchored then state else 2 * state + 2 * way + table 1

end Footprint

open Footprint in
/-- The bytes of an automaton for the pattern: the states that find the place to begin at, its own
ones, a final one, and in a forward automaton those of a group around the whole. -/
def footprint (p : Pattern) (direction : Direction) : Nat :=
  let own := whole direction p (states direction p)
  match direction with
  | .forward => entry (startsText p) + own + 3 * state
  | .backward => entry (endsText p) + own + state

/-- An automaton of the pattern takes more memory than it may. Texts that can be told one by one are
looked for without automata. -/
def isTooLarge (p : Pattern) : Bool :=
  maxFootprint < max (p.footprint .forward) (p.footprint .backward) && !p.isSpelled

end GivenWhenThen.Pattern
