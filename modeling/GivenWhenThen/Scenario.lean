import GivenWhenThen.Chain.Execution
import GivenWhenThen.Task

/-! Scenarios: the history of streams, the commands, and what is expected of the events, the
services and the errors. Building a scenario never fails; it keeps the first error of its steps
instead. -/

namespace GivenWhenThen

/-- A check passed, or failed with or without a message. -/
inductive Verdict where
  | passed
  | failed (message : Option String)
deriving DecidableEq, Repr, Inhabited

namespace Verdict

def ofBool (holds : Bool) : Verdict := if holds then passed else failed none

def ofResult : Except String Unit → Verdict
  | .ok _ => passed
  | .error message => failed (some message)

def isPassed : Verdict → Bool
  | passed => true
  | failed _ => false

def message : Verdict → Option String
  | passed => none
  | failed message => message

end Verdict

/-- A check on services, which it may use and which may take time. -/
abbrev Check (ς : Type) := ς → Task ς Verdict

/-- The check that uses the services at once and gives its verdict at once or after a delay. -/
def Check.after {ς : Type} (delay : Option Duration) (judge : ς → ς × Verdict) : Check ς :=
  fun services =>
    let (services, verdict) := judge services
    match delay with
    | none => .done services verdict
    | some delay => .wait services delay (.done services verdict)

/-- The stream a step is about: one that it names, or the default stream of the scenario, which a
method of the given name asks for. -/
inductive Target where
  | named (stream : StreamId)
  | default (method : String)

/-- One step of building a scenario. -/
inductive Clause (ε κ χ ς : Type) where
  /-- History of a stream. -/
  | given (target : Target) (events : List ε)
  /-- A change of the services before the history is seeded. -/
  | arrange (action : ς → ς)
  | command (command : κ)
  /-- A step of the chain of a stream. -/
  | expect (target : Target) (step : Chain.Step ε)
  | check (check : Check ς)
  | fault (expectation : FaultExpectation χ)
  /-- A pattern that must occur in the message of the error. -/
  | faultPattern (source : String)

structure Scenario (ε κ χ ς : Type) where
  /-- The default stream. -/
  stream : Option StreamId := none
  arrangements : List (ς → ς) := []
  given : Streams ε := ∅
  commands : List κ := []
  /-- The chains of the streams, in the order in which the streams were first mentioned. -/
  chains : List (StreamId × Chain ε) := []
  checks : List (Check ς) := []
  faults : List (FaultExpectation χ) := []
  /-- The first error of building the scenario. -/
  error : Option Error := none

namespace Scenario

variable {ε κ χ ς : Type}

/-- A scenario with a default stream. -/
def forStream (stream : StreamId) : Scenario ε κ χ ς := { stream := some stream }

/-- A scenario whose steps name their streams. -/
def forMany : Scenario ε κ χ ς := {}

/-- Keeps an error if it is the first. -/
def record (s : Scenario ε κ χ ς) (error : Error) : Scenario ε κ χ ς :=
  { s with error := s.error.or (some error) }

/-- The scenario after a step on the target's stream, which there must be. -/
def onTarget (s : Scenario ε κ χ ς) (target : Target) (f : StreamId → Scenario ε κ χ ς) :
    Scenario ε κ χ ς :=
  match target, s.stream with
  | .named stream, _ => f stream
  | .default _, some stream => f stream
  | .default method, none => s.record (.missingStream method)

/-- The chain of a stream; one not mentioned so far has no rules. -/
def chain (s : Scenario ε κ χ ς) (stream : StreamId) : Chain ε :=
  (s.chains.lookup stream).getD ∅

/-- Puts the chain of a stream in the place of the one before, or at the end. -/
def setChain (stream : StreamId) (chain : Chain ε) :
    List (StreamId × Chain ε) → List (StreamId × Chain ε)
  | [] => [(stream, chain)]
  | (id, c) :: rest =>
    if id = stream then (id, chain) :: rest else (id, c) :: setChain stream chain rest

/-- Applies a step to the chain of a stream, which mentions the stream also where the step fails. -/
def expectOn (s : Scenario ε κ χ ς) (stream : StreamId) (step : Chain.Step ε) :
    Scenario ε κ χ ς :=
  match (s.chain stream).apply step with
  | .ok () chain => { s with chains := setChain stream chain s.chains }
  | .error error chain => { s with chains := setChain stream chain s.chains }.record error

/-- The scenario with one more step. -/
def add [PatternEngine] (s : Scenario ε κ χ ς) : Clause ε κ χ ς → Scenario ε κ χ ς
  | .given target events =>
    s.onTarget target fun stream => { s with given := s.given.append stream events }
  | .arrange action => { s with arrangements := s.arrangements ++ [action] }
  | .command command => { s with commands := s.commands ++ [command] }
  | .expect target step => s.onTarget target fun stream => s.expectOn stream step
  | .check check => { s with checks := s.checks ++ [check] }
  | .fault expectation => { s with faults := s.faults ++ [expectation] }
  | .faultPattern source =>
    match MessageMatch.ofPattern source with
    | .ok expected => { s with faults := s.faults ++ [.message expected] }
    | .error error => s.record error

end Scenario

/-! ### The steps by name -/

namespace Clause

variable {ε κ χ ς : Type}

/-- Asks for exactly this event next. -/
def one (target : Target) (event : ε) : Clause ε κ χ ς := .expect target (.block .asGiven [event])

def inOrder (target : Target) (events : List ε) : Clause ε κ χ ς :=
  .expect target (.block .asGiven events)

def inAnyOrder (target : Target) (events : List ε) : Clause ε κ χ ς :=
  .expect target (.block .any events)

/-- Allows events up to the next block that no exclusion holds for. -/
def without (target : Target) (exclusions : List (Exclusion ε)) : Clause ε κ χ ς :=
  .expect target (.gap exclusions)

/-- Allows any events up to the next block. -/
def anything (target : Target) : Clause ε κ χ ς := .expect target (.gap [])

/-- Asks for no events at all. -/
def nothing (target : Target) : Clause ε κ χ ς := .expect target .nothing

/-- A check that takes no time and leaves the services alone. -/
def checkNow (judge : ς → Verdict) : Clause ε κ χ ς :=
  .check (Check.after none fun services => (services, judge services))

end Clause

def Scenario.dump {ε κ χ ς : Type} [Event ε] (s : Scenario ε κ χ ς) : String :=
  Dump.partialRecord "Scenario"
    [("stream_id", Dump.option (s.stream.map StreamId.dump)),
     ("given", s.given.dump Event.dump),
     ("commands", Dump.nat s.commands.length),
     ("chains", Dump.nat s.chains.length),
     ("checks", Dump.nat s.checks.length),
     ("error_expectations", Dump.list (s.faults.map FaultExpectation.dump)),
     ("error", Dump.option (s.error.map Error.dump))]

end GivenWhenThen
