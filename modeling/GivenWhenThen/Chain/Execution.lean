import GivenWhenThen.Chain.Basic
import GivenWhenThen.Chain.Mismatch
import GivenWhenThen.Stream

/-! Executing a chain against the events of a stream. The walk over the rules keeps a cursor, the
index of the first event that no block has taken, and the gap since the last block. Events are made
canonical only where a block or a diagnostic needs it, so that an event without canonical form is an
error only there. -/

namespace GivenWhenThen

/-- The end of executing a chain on a stream: the mismatch, if there is one, with its diagnostic. -/
structure Outcome where
  stream : StreamId
  failure : Option (Mismatch × String)
deriving DecidableEq, Repr

namespace Outcome

def isSuccess (outcome : Outcome) : Bool := outcome.failure.isNone

def mismatch? (outcome : Outcome) : Option Mismatch := outcome.failure.map (·.1)

def message? (outcome : Outcome) : Option String := outcome.failure.map (·.2)

end Outcome

namespace Chain

variable {ε : Type}

/-- The event between `first` and `stop` that a gap excludes, as a mismatch. -/
def gapMismatch? (gap : Option (List (Exclusion ε))) (observed : List ε) (first stop : Nat) :
    Option Mismatch := do
  let exclusions ← gap
  let index ← firstExcluded? exclusions observed first stop
  return .excluded exclusions.length index

/-- Places a block at the cursor, or after a gap at the first place from the cursor on. -/
def place (afterGap : Bool) (order : Order) (expected published : List Canonical) (cursor : Nat) :
    Placement :=
  if afterGap then order.placeFrom expected published cursor
  else order.placeAt expected published cursor

/-- Walks over rules from `cursor` on, after the gap `gap` if the rule before was one. The
published events are canonical already, or the error that kept them from it. -/
def walk (c : Canonicalizer ε) (observed : List ε) (published : Except Error (List Canonical))
    (gap : Option (List (Exclusion ε))) (cursor : Nat) :
    List (Rule ε) → Except Error (Option Mismatch)
  | [] => .ok (gapMismatch? gap observed cursor observed.length)
  | .gap exclusions :: rest => walk c observed published (some exclusions) cursor rest
  | .block b :: rest => do
    let expected ← c.all b.events
    let events ← published
    match place gap.isSome b.order expected events cursor with
    | .missed miss => return some (.missed b.order expected miss)
    | .found start =>
      match gapMismatch? gap observed cursor start with
      | some mismatch => return some mismatch
      | none =>
        let next := start + expected.length
        if rest.isEmpty && next < observed.length then
          return some (.missed b.order expected (.trailing next (observed.length - 1)))
        else walk c observed published none next rest

/-- The mismatch between the chain and the observed events, if there is one. -/
def mismatch? (c : Canonicalizer ε) (observed : List ε)
    (published : Except Error (List Canonical)) (chain : Chain ε) :
    Except Error (Option Mismatch) :=
  if chain.isNothing then .ok (if observed.isEmpty then none else some .notEmpty)
  else walk c observed published none 0 chain.toList

/-- Executes the chain against the events observed on a stream. An ill-formed chain is an error
before any event is made canonical. -/
def execute (c : Canonicalizer ε) (stream : StreamId) (chain : Chain ε) (observed : List ε) :
    Except Error Outcome := do
  chain.check
  let published := c.all observed
  match ← chain.mismatch? c observed published with
  | none => return ⟨stream, none⟩
  | some mismatch => return ⟨stream, some (mismatch, mismatch.text stream (← published))⟩

end Chain

/-- The text that shows how chains are executed. -/
def Canonicalizer.dumpExecutor {ε : Type} (c : Canonicalizer ε) : String :=
  Dump.record "ChainExecutor" [("canonicalizer", c.dump)]

/-! ### The report on all streams of a run -/

namespace Outcome

/-- The section of a report for one stream. -/
def reportText (separator : String) (outcome : Outcome) : String :=
  separator ++ "\nRESULT FOR STREAM: " ++ outcome.stream ++ "\n\n" ++
    match outcome.message? with
    | none => "OK\n\n"
    | some message => message ++ "\n"

end Outcome

/-- A section for each outcome, and the streams that got events. -/
def report (outcomes : List Outcome) (withEvents : List StreamId) (width : Nat) : String :=
  let separator := String.ofList (List.replicate width '-')
  String.join (outcomes.map (Outcome.reportText separator)) ++ separator ++ "\n" ++
    (if withEvents.isEmpty then "No events were published to any stream.\n"
    else "Events were published to the following streams:\n" ++
      String.join (withEvents.map fun id => "- " ++ id ++ "\n")) ++
    separator ++ "\n"

end GivenWhenThen
