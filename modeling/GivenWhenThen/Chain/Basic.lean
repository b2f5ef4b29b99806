import GivenWhenThen.Chain.Rule

/-! The chain of rules that the events of one stream must satisfy, and how it is built: each step
changes the chain in place. A step may fail, and what it has done to the chain by then stays. -/

namespace GivenWhenThen

/-- What is expected of a stream: events that satisfy rules one after the other, or no events at
all. -/
structure Chain (ε : Type) where
  /-- No events at all are expected. -/
  isNothing : Bool := false
  /-- The rules, in order. -/
  toList : List (Rule ε) := []

namespace Chain

variable {ε : Type}

/-- A chain without rules yet. -/
def empty : Chain ε := {}

instance : EmptyCollection (Chain ε) := ⟨empty⟩

/-- The chain that expects no events. -/
def nothing : Chain ε := { isNothing := true }

/-- The chain with the given rules. -/
def rules (l : List (Rule ε)) : Chain ε := { toList := l }

/-- A change of a chain, which may fail. The chain stays as the change leaves it, failed or not. -/
abbrev Change (ε : Type) := EStateM Error (Chain ε)

/-- Expects no events; a chain with rules cannot. -/
def expectNothing : Change ε Unit := do
  let chain ← get
  if chain.toList.isEmpty then set { chain with isNothing := true }
  else throw .noneWithRules

/-- Adds a rule at the end. -/
def push (rule : Rule ε) : Change ε Unit := do
  let chain ← get
  if chain.isNothing then throw .ruleAfterNone
  else if rule.isGap && chain.toList.getLast?.any Rule.isGap then throw .consecutiveGaps
  else set { chain with toList := chain.toList ++ [rule] }

/-- Adds a block of the given events. -/
def pushBlock (order : Order) (events : List ε) : Change ε Unit :=
  match Block.of order events with
  | .ok block => push (.block block)
  | .error error => throw error

/-- Adds a gap with the given exclusions. -/
def pushGap (exclusions : List (Exclusion ε)) : Change ε Unit := push (.gap exclusions)

/-- A chain that can be executed has rules, and no two gaps that are neighbours, or expects
nothing. -/
def check (chain : Chain ε) : Except Error Unit :=
  if chain.isNothing then .ok ()
  else if chain.toList.isEmpty then .error .emptyChain
  else if (chain.toList.zip chain.toList.tail).any fun (a, b) => a.isGap && b.isGap then
    .error .consecutiveGaps
  else .ok ()

def dump (dumpEvent : ε → String) (chain : Chain ε) : String :=
  Dump.record "MatchChain"
    [("is_none", Dump.bool chain.isNothing),
     ("rules", Dump.list (chain.toList.map (Rule.dump dumpEvent)))]

/-- One step of building a chain. -/
inductive Step (ε : Type) where
  | nothing
  | block (order : Order) (events : List ε)
  | gap (exclusions : List (Exclusion ε))

def Step.change : Step ε → Change ε Unit
  | nothing => expectNothing
  | block order events => pushBlock order events
  | gap exclusions => pushGap exclusions

/-- What a step comes to, and the chain that it leaves. -/
def apply (chain : Chain ε) (step : Step ε) : EStateM.Result Error (Chain ε) Unit :=
  step.change.run chain

end Chain

end GivenWhenThen
