import GivenWhenThen.Pattern.Basic

/-! Patterns that spell a few short texts. Such texts are looked for as they are. -/

namespace GivenWhenThen.Pattern

/-- The pattern has no groups and no conditions on places. -/
def isPlain : Pattern → Bool
  | empty | literal _ | char _ => true
  | anchor _ | group _ _ => false
  | seq p q | alt p q => p.isPlain && q.isPlain
  | times p _ _ => p.isPlain

namespace Spelled

/-- The texts, if there are at most 250 and each has at most 100 bytes. -/
def limited? (texts : List (List Char)) : Option (List (List Char)) :=
  let isShort (text : List Char) : Bool := (String.ofList text).utf8ByteSize ≤ 100
  if texts.length ≤ 250 && texts.all isShort then some texts else none

/-- Each of the first texts with each of those that `second` finds. It is not asked if there are no
first ones. -/
def join? (first : List (List Char)) (second : Option (List (List Char))) :
    Option (List (List Char)) :=
  if first.isEmpty then some []
  else second.bind fun second => limited? (first.flatMap fun p => second.map (p ++ ·))

/-- The texts joined to themselves `count` times. -/
def power? (texts : List (List Char)) : (count : Nat) → Option (List (List Char))
  | 0 => some [[]]
  | count + 1 => do join? (← power? texts count) (some texts)

/-- The texts of a repetition of texts. They are not told one by one where a bound is missing, where
the number of times varies beyond being there or not, or where it exceeds 10; but no number of times
makes a text of none. -/
def ofTimes? (texts : List (List Char)) (least : Nat) (most : Option Nat) :
    Option (List (List Char)) :=
  if least = 0 && most = some 1 then limited? (texts ++ [[]])
  else if texts.isEmpty then some (if least = 0 then [[]] else [])
  else if most = some least && least ≤ 10 then power? texts least
  else none

end Spelled

open Spelled in
/-- The texts that the pattern matches, if they can be told one by one: few and short ones, with at
most 10 characters to choose from at a place. -/
def texts? : Pattern → Option (List (List Char))
  | empty => some [[]]
  | literal chars => limited? [chars]
  | char set => if set.size ≤ 10 then some (set.toList.map ([·])) else none
  | anchor _ => none
  | group _ p => p.texts?
  | seq p q => do join? (← p.texts?) q.texts?
  | alt p q => do limited? ((← p.texts?) ++ (← q.texts?))
  | times p least most => do ofTimes? (← p.texts?) least most

/-- The pattern spells texts that can be told one by one, none of them empty. -/
def isSpelled (p : Pattern) : Bool :=
  p.isPlain && p.texts?.any fun texts => !texts.isEmpty && texts.all (!·.isEmpty)

end GivenWhenThen.Pattern
