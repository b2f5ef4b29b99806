import GivenWhenThen.Canonical

/-! The rules of a chain. A block asks for a run of neighbouring events, in the order given or in
any order; a gap allows any events except excluded ones, up to the next block or the end. -/

namespace GivenWhenThen

/-- The order in which the events of a block must stand. -/
inductive Order where
  | asGiven
  | any
deriving DecidableEq, Repr

namespace Order

def text : Order → String
  | asGiven => "in specified order"
  | any => "in any order"

def dump : Order → String
  | asGiven => "InOrder"
  | any => "InAnyOrder"

end Order

/-- The events expected next to each other. -/
structure Block (ε : Type) where
  order : Order
  events : List ε

/-- A test that excludes the events for which it holds. -/
abbrev Exclusion (ε : Type) := ε → Bool

inductive Rule (ε : Type) where
  | block (block : Block ε)
  | gap (exclusions : List (Exclusion ε))

variable {ε : Type}

/-- A block of the given events, of which there must be one. -/
def Block.of (order : Order) (events : List ε) : Except Error (Block ε) :=
  if events.isEmpty then .error .emptyBlock else .ok ⟨order, events⟩

def Block.dump (dumpEvent : ε → String) (b : Block ε) : String :=
  Dump.record "PositiveRule"
    [("expected", Dump.list (b.events.map dumpEvent)), ("order", b.order.dump)]

namespace Rule

def isGap : Rule ε → Bool
  | gap _ => true
  | block _ => false

def dump (dumpEvent : ε → String) : Rule ε → String
  | block b => Dump.call "Positive" [b.dump dumpEvent]
  | gap exclusions =>
    Dump.call "Negative" [Dump.record "NegativeRule"
      [("exclusions", Dump.list (exclusions.map fun _ => Dump.partialRecord "Exclusion" []))]]

end Rule

/-- The first event from `first` on and before `stop` that an exclusion holds for. -/
def firstExcluded? (exclusions : List (Exclusion ε)) (events : List ε) (first stop : Nat) :
    Option Nat :=
  (((events.take stop).drop first).findIdx? fun e => exclusions.any (· e)).map (first + ·)

end GivenWhenThen
