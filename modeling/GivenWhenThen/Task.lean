import GivenWhenThen.Duration
import GivenWhenThen.Fault.Expectation
import GivenWhenThen.Stream

/-! The boundary between a scenario and the system under test, whose calls take time. A task changes
a state and waits in turns until it is done with a result; `Task.within` runs one under a timer. An
`Adapter` is a system by its calls. -/

namespace GivenWhenThen

/-- A call on a state. While it waits, the state is the one it has brought about so far. -/
inductive Task (σ α : Type) where
  /-- The call is done. -/
  | done (state : σ) (result : α)
  /-- The call waits before it goes on. -/
  | wait (state : σ) (delay : Duration) (rest : Task σ α)
  /-- The call waits forever. -/
  | stuck (state : σ)

namespace Task

variable {σ τ α β : Type}

/-- The call whose state is a part `f` makes a whole of. -/
def mapState (f : σ → τ) : Task σ α → Task τ α
  | done s a => done (f s) a
  | wait s delay rest => wait (f s) delay (rest.mapState f)
  | stuck s => stuck (f s)

/-- Goes on with another call when this one is done. -/
def andThen (task : Task σ α) (next : σ → α → Task σ β) : Task σ β :=
  match task with
  | done s a => next s a
  | wait s delay rest => wait s delay (rest.andThen next)
  | stuck s => stuck s

/-- Runs the call under a timer that fires when it has waited for the limit. The result is missing
if the call was not done by then. The call is polled before the timer, so that one that is done
after exactly that time is in time. -/
def within (limit : Duration) : Task σ α → σ × Option α
  | done s a => (s, some a)
  | wait s delay rest => if delay ≤ limit then rest.within (limit - delay) else (s, none)
  | stuck s => (s, none)

/-- How long the call waits in all, if it is done at some time. -/
def duration? : Task σ α → Option Duration
  | done _ _ => some ⟨0⟩
  | wait _ delay rest => rest.duration?.map (delay + ·)
  | stuck _ => none

end Task

/-- The timers of the calls on a state. A timer is set for a bound when the call is made, and it
does not fire before the call has waited for so long. It may fire later, as the state decides in
which the call is made: that one may tell the time, where timers fire at whole milliseconds only. -/
class Timer (σ : Type) where
  /-- How long a call can wait until its timer fires. -/
  limit (bound : Duration) (state : σ) : Duration
  le_limit (bound : Duration) (state : σ) : bound ≤ limit bound state

/-- The timer that fires as soon as it may. -/
instance (priority := low) Timer.exact {σ : Type} : Timer σ where
  limit bound _ := bound
  le_limit bound _ := Nat.le_refl bound.nanoseconds

/-- A system with states `σ` that takes commands `κ`, publishes events `ε`, returns errors `χ` and
shares services `ς` with the scenario. -/
structure Adapter (σ ε κ χ ς : Type) where
  faults : FaultView χ
  services : σ → ς
  withServices : σ → ς → σ
  /-- Prepares the system for a run. -/
  beforeTest : σ → Task σ (Except Error Unit) := fun s => .done s (.ok ())
  /-- Ends a run. -/
  afterTest : σ → Task σ (Except Error Unit) := fun s => .done s (.ok ())
  /-- Gives the streams their history. -/
  seed : Streams ε → σ → Task σ (Except Error Unit)
  dispatch : κ → σ → Task σ (Except χ Unit)
  /-- The events published in this run; a stream without an entry got none. -/
  published : σ → Task σ (Except Error (Streams ε))

end GivenWhenThen
