import GivenWhenThen.Task
import GivenWhenThen.Scenario
import GivenWhenThen.Scripted.Event
import GivenWhenThen.Scripted.Fault

/-! A system in memory whose commands are scripts: lists of actions that publish events, change
counters, wait or fail. Each other call of its adapter can be made to wait and to fail. -/

namespace GivenWhenThen.Scripted

/-- Counters, and a log of how they were used. -/
structure Services where
  counters : OrderedMap Int := ∅
  log : List String := []

namespace Services

/-- A counter that was never set is zero. -/
def count (s : Services) (key : String) : Int := (s.counters.get? key).getD 0

def set (s : Services) (key : String) (n : Int) : Services :=
  { s with counters := s.counters.insert key n }

def add (s : Services) (key : String) (n : Int) : Services := s.set key (s.count key + n)

def note (s : Services) (entry : String) : Services := { s with log := s.log ++ [entry] }

end Services

/-- A condition on the counters. -/
inductive Condition where
  | constant (holds : Bool)
  | equal (key : String) (n : Int)
  | less (key : String) (n : Int)

def Condition.holds (services : Services) : Condition → Bool
  | constant holds => holds
  | equal key n => services.count key = n
  | less key n => services.count key < n

/-- Notes the use of a condition, and whether it holds. -/
def judge (condition : Condition) (services : Services) : Services × Bool :=
  (services.note "check", condition.holds services)

/-- A change of the services that notes its use. -/
def arrange (key : String) (change : Services → Services) (services : Services) : Services :=
  change (services.note ("arrange " ++ key))

inductive Action where
  | publish (stream : StreamId) (events : List Event)
  /-- Publishes the history of a stream. -/
  | echo (stream : StreamId)
  | count (key : String) (n : Int)
  | delay (delay : Duration)
  | fail (fault : Fault)

/-- What a call of the adapter does before its own work: it waits, then it fails. -/
structure Hook where
  delay : Option Duration := none
  failure : Option Error := none

structure Hooks where
  beforeTest : Hook := {}
  seed : Hook := {}
  published : Hook := {}
  afterTest : Hook := {}

structure Machine where
  history : Streams Event := ∅
  published : Streams Event := ∅
  services : Services := {}
  /-- The calls of the adapter so far. -/
  calls : List String := []
  hooks : Hooks := {}

namespace Machine

def noteCall (s : Machine) (name : String) : Machine := { s with calls := s.calls ++ [name] }

/-- Performs the actions in order; a failing one ends the command. -/
def perform : List Action → Machine → Task Machine (Except Fault Unit)
  | [], s => .done s (.ok ())
  | .publish stream events :: rest, s =>
    perform rest { s with published := s.published.append stream events }
  | .echo stream :: rest, s =>
    perform rest { s with published := s.published.append stream (s.history.events stream) }
  | .count key n :: rest, s => perform rest { s with services := s.services.add key n }
  | .delay delay :: rest, s => .wait s delay (perform rest s)
  | .fail fault :: _, s => .done s (.error fault)

/-- Notes a call, obeys its hook, and then does its work. -/
def hooked {α : Type} (name : String) (hook : Hooks → Hook) (work : Machine → Machine × α)
    (s : Machine) : Task Machine (Except Error α) :=
  let s := s.noteCall name
  let ending : Task Machine (Except Error α) :=
    match (hook s.hooks).failure with
    | some error => .done s (.error error)
    | none => let (s, a) := work s; .done s (.ok a)
  match (hook s.hooks).delay with
  | some delay => .wait s delay ending
  | none => ending

/-- The adapter without preparation and end of its own, whose commands return errors of the type
`own`. -/
def plainAdapter (own : FaultType) : Adapter Machine Event (List Action) Fault Services where
  faults := Fault.view own
  services s := s.services
  withServices s services := { s with services }
  seed given := hooked "set_given_events" Hooks.seed fun s => ({ s with history := given }, ())
  dispatch actions s := perform actions (s.noteCall "dispatch")
  published := hooked "published_events" Hooks.published fun s => (s, s.published)

/-- The adapter that forgets all events before a run. -/
def adapter (own : FaultType) : Adapter Machine Event (List Action) Fault Services :=
  { plainAdapter own with
    beforeTest := hooked "before_test" Hooks.beforeTest fun s =>
      ({ s with history := ∅, published := ∅ }, ())
    afterTest := hooked "after_test" Hooks.afterTest fun s => (s, ()) }

/-- The system with no calls and no log entries noted. -/
def forget (s : Machine) : Machine :=
  { s with calls := [], services := { s.services with log := [] } }

end Machine

end GivenWhenThen.Scripted
