import GivenWhenThen.Pattern.Anchor
import GivenWhenThen.Pattern.CharSet

/-! Text patterns in a plain form, which the ways to put them together keep: characters in a row are
one literal, a sequence or a choice is no part of another one, alternatives of one character are a
set, and alternatives that begin with the same parts have these in front of them. -/

namespace GivenWhenThen

inductive Pattern where
  | empty
  /-- The characters one after the other. -/
  | literal (chars : List Char)
  /-- One character of the set. -/
  | char (set : CharSet)
  | anchor (anchor : Anchor)
  /-- A pattern as the group with the given number. -/
  | group (number : Nat) (inner : Pattern)
  | seq (first second : Pattern)
  | alt (first second : Pattern)
  /-- The pattern between `least` and `most` times in a row, or without an upper bound. -/
  | times (inner : Pattern) (least : Nat) (most : Option Nat)
deriving DecidableEq, Repr

namespace Pattern

/-- The patterns joined by an operator, or `base` if there are none. -/
def chain (operator : Pattern → Pattern → Pattern) (base : Pattern) : List Pattern → Pattern
  | [] => base
  | [p] => p
  | p :: rest => operator p (chain operator base rest)

/-- The parts of a sequence. -/
def parts : Pattern → List Pattern
  | empty => []
  | seq p q => p.parts ++ q.parts
  | p => [p]

/-- The alternatives of a choice. -/
def choices : Pattern → List Pattern
  | alt p q => p.choices ++ q.choices
  | p => [p]

/-- Makes one literal of those in a row. -/
def joinLiterals : List Pattern → List Pattern
  | [] => []
  | literal s :: rest =>
    match joinLiterals rest with
    | literal t :: rest => literal (s ++ t) :: rest
    | rest => literal s :: rest
  | p :: rest => p :: joinLiterals rest

/-- The patterns one after the other. -/
def concat (patterns : List Pattern) : Pattern :=
  chain seq empty (joinLiterals (patterns.flatMap parts))

/-- One character of the set. -/
def ofSet (set : CharSet) : Pattern :=
  match set.only? with
  | some c => literal [c]
  | none => char set

/-- The only character that the pattern matches. -/
def only? : Pattern → Option Char
  | literal [c] => some c
  | _ => none

/-- The set of the characters that the pattern matches. -/
def set? : Pattern → Option CharSet
  | char set => some set
  | _ => none

/-- The alternatives as one set, if all of them are characters or all of them are sets. -/
def merged? (patterns : List Pattern) : Option CharSet :=
  (patterns.mapM only?).map (fun chars => .unionAll (chars.map .single)) <|>
    (patterns.mapM set?).map .unionAll

/-- One of the alternatives. -/
def choice (patterns : List Pattern) : Pattern :=
  match merged? patterns with
  | some set => ofSet set
  | none => chain alt (char .nothing) patterns

/-- The parts that both lists begin with. -/
def commonPrefix : List Pattern → List Pattern → List Pattern
  | p :: ps, q :: qs => if p = q then p :: commonPrefix ps qs else []
  | _, _ => []

/-- The parts that all the sequences begin with; there are none unless all are sequences of two
parts or more. -/
def sharedParts : List Pattern → List Pattern
  | [] => []
  | p :: rest =>
    let several (p : Pattern) : List Pattern :=
      match p with
      | seq _ _ => p.parts
      | _ => []
    rest.foldl (fun shared q => commonPrefix shared (several q)) (several p)

/-- One of the patterns. -/
def oneOf (patterns : List Pattern) : Pattern :=
  match patterns.flatMap choices with
  | [p] => p
  | patterns =>
    match sharedParts patterns with
    | [] => choice patterns
    | shared =>
      let rest (p : Pattern) : Pattern := concat (p.parts.drop shared.length)
      concat (shared ++ [choice (patterns.flatMap fun p => (rest p).choices)])

/-- The pattern has a part that matches a character. -/
def consumes : Pattern → Bool
  | empty | anchor _ => false
  | literal _ | char _ => true
  | seq p q | alt p q => p.consumes || q.consumes
  | group _ p => p.consumes
  | times p _ most => p.consumes && most != some 0

/-- The pattern between `least` and `most` times in a row, or without an upper bound. A pattern that
consumes nothing matches many times where it matches once. -/
def iterate (p : Pattern) (least : Nat) (most : Option Nat) : Pattern :=
  let (least, most) :=
    if p.consumes then (least, most) else (min least 1, some (min (most.getD 1) 1))
  match least, most with
  | 0, some 0 => empty
  | 1, some 1 => p
  | least, most => times p least most

end Pattern

end GivenWhenThen
