import GivenWhenThen.Pattern.Basic

/-! Where a pattern occurs in a text. The text is read once, and each part of the pattern keeps
whether it matches a stretch of text that ends at the place reached. A character more moves these
marks one step on. Parts without marks that nothing enters are passed over, so that the time is
bounded by the number of marks, however often a part is repeated. -/

namespace GivenWhenThen.Pattern

/-- What is known of a part of a pattern at a place: it is `skipped` if it matches the empty text
there, and `ended` if it matches a longer stretch of text that ends there. It is `resting` if it
has no mark and no condition on places, so that it stays as it is until a match enters it. -/
structure Marked.Status where
  skipped : Bool
  ended : Bool
  resting : Bool

/-- A pattern with the status of each of its parts. -/
inductive Marked where
  | char (set : CharSet) (ended : Bool)
  | anchor (anchor : Anchor) (holds : Bool)
  | empty
  | seq (first second : Marked) (status : Marked.Status)
  | alt (first second : Marked) (status : Marked.Status)
  | optional (inner : Marked) (status : Marked.Status)
  | repeated (inner : Marked) (status : Marked.Status)
  /-- Two rows of parts that may be left out from any place on, the second after the first. -/
  | row (first second : Marked) (status : Marked.Status)

namespace Marked

def status : Marked → Status
  | char _ ended => ⟨false, ended, !ended⟩
  | anchor _ holds => ⟨holds, false, false⟩
  | empty => ⟨true, false, true⟩
  | seq _ _ status | alt _ _ status | optional _ status | repeated _ status | row _ _ status =>
    status

/-- One part and then the other. -/
def andThen (p q : Marked) : Marked :=
  seq p q
    { skipped := p.status.skipped && q.status.skipped
      ended := q.status.ended || p.status.ended && q.status.skipped
      resting := p.status.resting && q.status.resting }

/-- One part or the other. -/
def orElse (p q : Marked) : Marked :=
  alt p q
    { skipped := p.status.skipped || q.status.skipped
      ended := p.status.ended || q.status.ended
      resting := p.status.resting && q.status.resting }

def orNothing (p : Marked) : Marked := optional p { p.status with skipped := true }

def onceOrMore (p : Marked) : Marked := repeated p p.status

/-- One row and then the other, or nothing. -/
def andOn (p q : Marked) : Marked :=
  row p q
    { skipped := true
      ended := p.status.ended || q.status.ended
      resting := p.status.resting && q.status.resting }

/-- The last part of a row has ended. -/
def filled : Marked → Bool
  | row _ q _ => q.filled
  | p => p.status.ended

/-- The part `count` times in a row, with two halves of the row that are alike. -/
def power (operator : Marked → Marked → Marked) (p : Marked) (count : Nat) : Marked :=
  if count = 0 then empty
  else if count = 1 then p
  else
    let half := power operator p (count / 2)
    let twice := operator half half
    if count % 2 = 0 then twice else operator p twice
termination_by count

/-- The part between `least` and `most` times in a row, or without an upper bound. No number of
times is too small for a part that matches the empty text at every place. -/
def times (p : Marked) (least : Nat) (most : Option Nat) : Marked :=
  match if p.status.resting && p.status.skipped then 0 else least, most with
  | 0, none => p.onceOrMore.orNothing
  | 0, some most => power andOn p.orNothing most
  | least + 1, none => (power andThen p least).andThen p.onceOrMore
  | least, some most =>
    (power andThen p least).andThen (power andOn p.orNothing (most - least))

/-- The pattern at a place, before any of the text is read. -/
def start (place : Place) : Pattern → Marked
  | .empty => empty
  | .literal chars => chars.foldr (fun c rest => (char (.single c) false).andThen rest) empty
  | .char set => char set false
  | .anchor a => anchor a (a.holds place)
  | .group _ p => start place p
  | .seq p q => (start place p).andThen (start place q)
  | .alt p q => (start place p).orElse (start place q)
  | .times p least most => (start place p).times least most

/-- Reads the character `c`, which `place` comes after. A match of the whole may begin before `c`
if it is `entered`. A part of a sequence is also entered where the part before it ends, a part that
repeats where it ends itself, and a row only where the row before it is full. -/
def read (c : Char) (place : Place) (entered : Bool) (marked : Marked) : Marked :=
  if !entered && marked.status.resting then marked
  else match marked with
    | empty => empty
    | char set _ => char set (entered && set.has c)
    | anchor a _ => anchor a (a.holds place)
    | seq p q _ =>
      (p.read c place entered).andThen
        (q.read c place (p.status.ended || entered && p.status.skipped))
    | alt p q _ => (p.read c place entered).orElse (q.read c place entered)
    | optional p _ => (p.read c place entered).orNothing
    | repeated p _ => (p.read c place (entered || p.status.ended)).onceOrMore
    | row p q _ => (p.read c place entered).andOn (q.read c place p.filled)

/-- A match ends at the place reached or at one of those of the text that is left. Matches may
begin at every place. -/
def succeeds (marked : Marked) : List Char → Bool
  | [] => marked.status.skipped || marked.status.ended
  | c :: rest =>
    marked.status.skipped || marked.status.ended ||
      (marked.read c ⟨some c, rest.head?⟩ true).succeeds rest

end Marked

/-- The pattern occurs somewhere in the text. -/
def occursIn (p : Pattern) (text : String) : Bool :=
  let chars := text.toList
  (Marked.start ⟨none, chars.head?⟩ p).succeeds chars

end GivenWhenThen.Pattern
