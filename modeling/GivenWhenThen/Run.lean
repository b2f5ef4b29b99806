import GivenWhenThen.Scenario

/-! Running a scenario against an adapter. A run prepares the system, arranges the services, seeds
the history, dispatches the commands, and then looks at the events and the services, or at the
error that a command returned if the scenario expects one. Each call of the adapter is given the
same time, and once the system is prepared, the run ends it in every case. -/

namespace GivenWhenThen

/-- How long one call of the adapter may take, and how wide the separators of a report are. -/
structure Settings where
  timeout : Duration := .ofSeconds 5
  separatorWidth : Nat := 56
deriving DecidableEq, Repr, Inhabited

def Settings.dump (s : Settings) : String :=
  Dump.record "TesterConfig"
    [("adapter_timeout", s.timeout.text), ("separator_width", Dump.nat s.separatorWidth)]

namespace Settings

/-- A change of the settings before a run. -/
inductive Change where
  /-- Another time for each call of the adapter. -/
  | within (timeout : Duration)
  /-- Other settings in the place of all that were made before. -/
  | replace (settings : Settings)

def change (s : Settings) : Change → Settings
  | .within timeout => { s with timeout }
  | .replace settings => settings

/-- The settings that changes make of the default ones. -/
def configure (changes : List Change) : Settings := changes.foldl change {}

end Settings

/-- The calls of the adapter that take time. -/
inductive Phase where
  | beforeTest
  | seed
  | dispatch
  | published
  | check
  | afterTest
deriving DecidableEq, Repr

def Phase.text : Phase → String
  | beforeTest => "before_test"
  | seed => "set_given_events"
  | dispatch => "dispatch"
  | published => "published_events"
  | check => "check"
  | afterTest => "after_test"

/-- One use that a run makes of the adapter. -/
inductive Interaction (ε κ : Type) where
  | beforeTest
  | arrange (index : Nat)
  | seed (given : Streams ε)
  | dispatch (command : κ)
  | published
  | check (index : Nat)
  | afterTest

/-- The state of the system, and the uses of the adapter so far. -/
structure Progress (σ ε κ : Type) where
  state : σ
  interactions : List (Interaction ε κ) := []

/-- A part of a run: it goes on from the progress so far, and ends with an error or a result. -/
abbrev Stage (σ ε κ α : Type) := ExceptT Error (StateM (Progress σ ε κ)) α

/-- The end of a run: its result, the state of the system, and all uses of the adapter. -/
structure Ended (σ ε κ : Type) where
  result : Except Error Unit
  state : σ
  interactions : List (Interaction ε κ)

variable {σ ε κ χ ς α : Type}

/-- How long a call in the state can wait until its timer fires. -/
def Settings.limit [Timer σ] (settings : Settings) (state : σ) : Duration :=
  Timer.limit settings.timeout state

namespace Stage

/-- Makes a use of the adapter that takes no time. -/
def use (interaction : Interaction ε κ) (f : σ → σ) : Stage σ ε κ Unit :=
  modify fun p => { state := f p.state, interactions := p.interactions ++ [interaction] }

/-- Calls the adapter under a timer for the time of the settings. -/
def call [Timer σ] (settings : Settings) (phase : Phase) (interaction : Interaction ε κ)
    (task : σ → Task σ α) : Stage σ ε κ α := do
  let before ← get
  let (state, result) := (task before.state).within (settings.limit before.state)
  set { state, interactions := before.interactions ++ [interaction] : Progress σ ε κ }
  match result with
  | some a => return a
  | none => throw (.timeout phase.text settings.timeout)

/-- Calls the adapter, whose own error ends the run. -/
def callOrFail [Timer σ] (settings : Settings) (phase : Phase) (interaction : Interaction ε κ)
    (task : σ → Task σ (Except Error α)) : Stage σ ε κ α := do
  liftExcept (← call settings phase interaction task)

end Stage

namespace Scenario

variable (a : Adapter σ ε κ χ ς) (settings : Settings) (c : Canonicalizer ε)

/-- Applies changes of the services, the first of them with the given index. -/
def arrangeAll (index : Nat) : List (ς → ς) → Stage σ ε κ Unit
  | [] => return
  | action :: rest => do
    Stage.use (.arrange index) fun s => a.withServices s (action (a.services s))
    arrangeAll (index + 1) rest

/-- Dispatches commands up to the first that returns an error. -/
def dispatchAll [Timer σ] : List κ → Stage σ ε κ (Option χ)
  | [] => return none
  | command :: rest => do
    match ← Stage.call settings .dispatch (.dispatch command) (a.dispatch command) with
    | .ok () => dispatchAll rest
    | .error fault => return some fault

/-- The published events of all streams. -/
def readPublished [Timer σ] : Stage σ ε κ (Streams ε) :=
  Stage.callOrFail settings .published .published a.published

/-- Executes the chains against the published events of their streams. -/
def executeAll (published : Streams ε) (chains : List (StreamId × Chain ε)) :
    Except Error (List Outcome) :=
  chains.mapM fun (stream, chain) => chain.execute c stream (published.events stream)

/-- Fails with a report on all chains if one of them does not hold. -/
def checkStreams (published : Streams ε) (chains : List (StreamId × Chain ε)) :
    Except Error Unit := do
  let outcomes ← executeAll c published chains
  if outcomes.all Outcome.isSuccess then return
  else throw (.assertionFailed (report outcomes published.nonempty settings.separatorWidth))

/-- The failure of a check on the services. -/
def failedCheck (message : Option String) : Error :=
  .assertionFailed ("Assert check failed." ++ (message.map (" " ++ ·)).getD "")

/-- Runs checks on the services, the first of them with the given index, up to the first that
fails. -/
def checkAll [Timer σ] (index : Nat) : List (Check ς) → Stage σ ε κ Unit
  | [] => return
  | check :: rest => do
    let verdict ← Stage.call settings .check (.check index) fun s =>
      (check (a.services s)).mapState (a.withServices s)
    match verdict with
    | .passed => checkAll (index + 1) rest
    | .failed message => throw (failedCheck message)

/-- A command returned an error that no expectation is about. -/
def unexpectedFault (fault : χ) : Error :=
  .assertionFailed ("Unexpected error was returned: " ++ a.faults.message fault ++ "\n" ++
    a.faults.dump fault)

/-- No command returned an error, though one was expected. -/
def missingFault (published : Streams ε) : Except Error Error := do
  let tags := (← c.all published.allEvents).map (·.tag)
  return .assertionFailed ("Error was expected but no error was returned." ++
    if tags.isEmpty then ""
    else " Following events were produced instead: " ++ Dump.list tags ++ ".")

/-- Looks at what the commands have brought about, given the error that one of them returned. -/
def evaluate [Timer σ] (s : Scenario ε κ χ ς) (returned : Option χ) : Stage σ ε κ Unit := do
  if s.faults.isEmpty then
    match returned with
    | some fault => throw (unexpectedFault a fault)
    | none =>
      liftExcept (checkStreams settings c (← readPublished a settings) s.chains)
      checkAll a settings 0 s.checks
  else
    match returned with
    | some fault => liftExcept (s.faults.forM fun expected => expected.check a.faults fault)
    | none => throw (← liftExcept (missingFault c (← readPublished a settings)))

/-- The part of a run between the preparation of the system and its end. -/
def body [Timer σ] (s : Scenario ε κ χ ς) : Stage σ ε κ Unit := do
  arrangeAll a 0 s.arrangements
  Stage.callOrFail settings .seed (.seed s.given) (a.seed s.given)
  evaluate a settings c s (← dispatchAll a settings s.commands)

/-- Runs the scenario from a state of the system. An error of building the scenario is the result,
and the system is left alone; an error at its end counts only if there was none before. -/
def run [Timer σ] (s : Scenario ε κ χ ς) (state : σ) : Ended σ ε κ :=
  match s.error with
  | some error => { result := .error error, state, interactions := [] }
  | none =>
    let prepare := Stage.callOrFail settings .beforeTest .beforeTest a.beforeTest
    match prepare.run { state } with
    | (.error error, p) =>
      { result := .error error, state := p.state, interactions := p.interactions }
    | (.ok (), p) =>
      let (outcome, p) := (body a settings c s).run p
      let (ending, p) :=
        (Stage.callOrFail settings .afterTest .afterTest a.afterTest : Stage σ ε κ Unit).run p
      { result := outcome.bind fun () => ending
        state := p.state
        interactions := p.interactions }

/-- The text that shows a run before it begins. -/
def dumpRun [Event ε] (s : Scenario ε κ χ ς) (settings : Settings) : String :=
  Dump.partialRecord "Run" [("scenario", s.dump), ("config", settings.dump)]

end Scenario

end GivenWhenThen
