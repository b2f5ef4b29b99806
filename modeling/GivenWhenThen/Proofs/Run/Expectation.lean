import GivenWhenThen.Proofs.Bank.Conservation
import GivenWhenThen.Proofs.Run.Acceptance

/-! Runs that expect an error. The first command that returns one ends the dispatching, and then
only the expectations look at it, as `Weighs` says. If all commands are done, the run fails, as
`Misses` says. By `run_expectations` there is nothing else that such a run comes to once the history
is seeded, if no command takes too long, and the chains and the checks of the scenario play no part
in it. -/

namespace GivenWhenThen

variable {σ ε κ χ ς : Type}

/-- The text on an expected error that no command returned. It lists the tags of the published
events, from stream to stream in ascending order, unless there are none. -/
def TellsMissing (c : Canonicalizer ε) (streams : Streams ε) (text : String) : Prop :=
  ∃ ids : List StreamId, ids.Pairwise (· < ·) ∧ (∀ id, id ∈ ids ↔ streams.events id ≠ []) ∧
    (text = "Error was expected but no error was returned." ↔ ∀ id, streams.events id = []) ∧
    ((∃ id, streams.events id ≠ []) →
      text = "Error was expected but no error was returned." ++
        (" Following events were produced instead: [" ++
          ", ".intercalate (ids.flatMap fun id =>
            (streams.events id).map fun event => (c.form event).tag) ++ "]."))

/-- The error of a run in which an error was expected and no command returned one, given what the
system came to when it was asked for the published events. -/
inductive Instead (settings : Settings) (c : Canonicalizer ε) :
    Option (Except Error (Streams ε)) → Error → Prop
  | late : Instead settings c none (.timeout "published_events" settings.timeout)
  | failed {error : Error} : Instead settings c (some (.error error)) error
  /-- The first published event without a canonical form. -/
  | unreadable {streams : Streams ε} {error : Error}
      (first : c.FirstError streams.allEvents error) :
      Instead settings c (some (.ok streams)) error
  | missing {streams : Streams ε} {text : String} (covers : c.Covers streams.allEvents)
      (tells : TellsMissing c streams text) :
      Instead settings c (some (.ok streams)) (.assertionFailed text)

namespace Scenario

variable (a : Adapter σ ε κ χ ς) (settings : Settings) (c : Canonicalizer ε) (s : Scenario ε κ χ ς)

/-- The command is dispatched in the state `mid`, after the commands before it were done. -/
def Dispatches [Timer σ] (seeded : σ) (before : List κ) (command : κ) (mid : σ) : Prop :=
  ∃ behind, s.commands = before ++ command :: behind ∧
    s.Does a settings (before.map .dispatch) seeded mid

/-- The run has made the first `n` dispatches, of which the last one returned the error and left the
system in the state `after`. It makes no call but the one that ends it, and nothing canonical, and
its outcome is what the first expectation says that does not hold of the error. -/
structure Weighs [Timer σ] (state : σ) (n : Nat) (after : σ) (fault : χ)
    (outcome : Except Error Unit) : Prop where
  ends : s.EndsWith a settings c state (.beforeTest :: s.stages n false 0) after outcome
  ok : outcome = .ok () ↔ ∀ expected ∈ s.faults, expected.check a.faults fault = .ok ()
  first : ∀ before expected behind error, s.faults = before ++ expected :: behind →
    (∀ other ∈ before, other.check a.faults fault = .ok ()) →
    expected.check a.faults fault = .error error → outcome = .error error
  blind : ∀ c', s.run a settings c' state = s.run a settings c state

/-- The run has dispatched all commands, which left the system in the state `acted` and returned no
error. It asks for the published events and then fails. -/
structure Misses [Timer σ] (state acted : σ) (error : Error) : Prop where
  ends : s.EndsWith a settings c state (.beforeTest :: s.stages s.commands.length true 0)
    ((a.published acted).within (settings.limit acted)).1 (.error error)
  instead : Instead settings c ((a.published acted).within (settings.limit acted)).2 error

variable {a settings c s} {state seeded mid acted after : σ} {call : Interaction ε κ}
  {calls calls' : List (Interaction ε κ)} {before behind : List κ} {command : κ} {fault : χ}
  {streams : Streams ε}

/-! ### The text -/

/-- The text that the runner makes where all published events have canonical forms. -/
theorem missingFault_of_covers (h : c.Covers streams.allEvents) :
    ∃ text, missingFault c streams = .ok (.assertionFailed text) ∧ TellsMissing c streams text := by
  let tags := streams.allEvents.map fun event => (c.form event).tag
  have hmissing : missingFault c streams =
      .ok (.assertionFailed ("Error was expected but no error was returned." ++
        if tags.isEmpty then ""
        else " Following events were produced instead: " ++ Dump.list tags ++ ".")) := by
    rw [missingFault, Canonicalizer.all_eq_map h]
    simp only [tags, bind, Except.bind, pure, Except.pure, List.map_map]
    rfl
  have htags : tags = streams.nonempty.flatMap fun id =>
      (streams.events id).map fun event => (c.form event).tag := by
    simp only [tags, Streams.allEvents_eq, List.map_flatMap]
  have hempty : tags.isEmpty = true ↔ ∀ id, streams.events id = [] := by
    simp only [tags, List.isEmpty_iff, List.map_eq_nil_iff, Streams.allEvents_eq,
      List.flatMap_eq_nil_iff, Streams.mem_nonempty_iff]
    exact forall_congr' fun id => ⟨fun h => by_contra fun hne => hne (h hne), fun h _ => h⟩
  refine ⟨_, hmissing, streams.nonempty, streams.pairwise_nonempty,
    fun _ => streams.mem_nonempty_iff, ?_, ?_⟩
  · rw [String.append_eq_left_iff, ← hempty]
    split
    · next hnil => simp [hnil]
    · next hnil => simp [hnil, String.append_eq_empty_iff]
  · rintro ⟨id, hid⟩
    have hopen : " Following events were produced instead: [" =
        " Following events were produced instead: " ++ "[" := rfl
    have hclose : "]." = "]" ++ "." := rfl
    rw [if_neg fun hnil => hid (hempty.1 hnil id), Dump.list, htags, hopen, hclose]
    simp only [String.append_assoc]

/-! ### Commands -/

section Runs

variable [Timer σ]

theorem Does.append (h : s.Does a settings calls state mid)
    (h' : s.Does a settings calls' mid after) :
    s.Does a settings (calls ++ calls') state after := by
  rw [Does, List.map_append]
  exact Answered.append h h'

/-- Calls are done, or there is a first one that is not. -/
theorem does_or_stops (calls : List (Interaction ε κ)) (state : σ) :
    (∃ final, s.Does a settings calls state final) ∨
      ∃ before call behind mid, calls = before ++ call :: behind ∧
        s.Does a settings before state mid ∧ (s.answer a settings call mid).2 ≠ .done := by
  induction calls generalizing state with
  | nil => exact .inl ⟨state, .nil⟩
  | cons call calls ih =>
    rcases hanswer : s.answer a settings call state with ⟨next, answer⟩
    by_cases hdone : answer = .done
    · subst hdone
      rcases ih next with ⟨final, hdoes⟩ | ⟨before, other, behind, mid, rfl, hdoes, hother⟩
      · exact .inl ⟨final, does_cons_iff.2 ⟨next, hanswer, hdoes⟩⟩
      · exact .inr ⟨call :: before, other, behind, mid, rfl,
          does_cons_iff.2 ⟨next, hanswer, hdoes⟩, hother⟩
    · exact .inr ⟨[], call, calls, state, rfl, .nil, by rwa [hanswer]⟩

theorem stages_append (hcommands : s.commands = before ++ behind) :
    s.stages before.length false 0 = s.stages 0 false 0 ++ before.map .dispatch := by
  simp [stages, hcommands]

theorem dispatches_or_does (seeded : σ)
    (htimely : ∀ before command mid, s.Dispatches a settings seeded before command mid →
      ((a.dispatch command mid).within (settings.limit mid)).2 ≠ none) :
    (∃ before command mid after fault, s.Dispatches a settings seeded before command mid ∧
      (a.dispatch command mid).within (settings.limit mid) =
        (after, some (.error fault))) ∨
    ∃ acted, s.Does a settings (s.commands.map .dispatch) seeded acted := by
  rcases does_or_stops (a := a) (s := s) (s.commands.map .dispatch) seeded with
    hdoes | ⟨_, _, _, mid, hcalls, hdoes, hanswer⟩
  · exact .inr hdoes
  · obtain ⟨before, rest, hcommands, rfl, hrest⟩ := List.map_eq_append_iff.1 hcalls
    obtain ⟨command, behind, rfl, rfl, -⟩ := List.map_eq_cons_iff.1 hrest
    have hdispatches : s.Dispatches a settings seeded before command mid :=
      ⟨behind, hcommands, hdoes⟩
    have hintime := htimely before command mid hdispatches
    rw [answer, answerIn] at hanswer
    rcases hwithin : (a.dispatch command mid).within (settings.limit mid) with
      ⟨after, _ | fault | ⟨⟩⟩
    · rw [hwithin] at hintime
      exact absurd rfl hintime
    · exact .inl ⟨before, command, mid, after, fault, hdispatches, hwithin⟩
    · rw [hwithin] at hanswer
      exact absurd rfl hanswer

/-! ### Runs -/

omit [Timer σ] in
theorem judge_fault (hfaults : s.faults ≠ []) (fault : χ) :
    s.judge a settings c (.fault fault) =
      failure? (s.faults.forM fun expected => expected.check a.faults fault) := by
  simp [judge, hfaults]

omit [Timer σ] in
theorem judge_published (hfaults : s.faults ≠ []) {error : Error}
    (h : missingFault c streams = .ok error ∨ missingFault c streams = .error error) :
    s.judge a settings c (.published streams) = some error := by
  rcases h with h | h <;> simp [judge, hfaults, h]

/-- The chains and the checks play no part where an error is expected. -/
theorem run_eq_of_faults (hfaults : s.faults ≠ []) (chains : List (StreamId × Chain ε))
    (checks : List (Check ς)) :
    ({ s with chains, checks } : Scenario ε κ χ ς).run a settings c state =
      s.run a settings c state := by
  have hevaluate (returned : Option χ) :
      evaluate a settings c { s with chains, checks } returned =
        evaluate a settings c s returned := by
    simp only [evaluate, List.isEmpty_iff, hfaults, if_false]
  simp only [run, body, hevaluate]

theorem EndsWith.run_eq {c' : Canonicalizer ε} {outcome : Except Error Unit}
    (h : s.EndsWith a settings c state calls mid outcome)
    (h' : s.EndsWith a settings c' state calls mid outcome) :
    s.run a settings c' state = s.run a settings c state := by
  obtain ⟨final, ending, hafter, hrun⟩ := h
  obtain ⟨final', ending', hafter', hrun'⟩ := h'
  rw [hafter, Prod.mk.injEq] at hafter'
  obtain ⟨rfl, hending⟩ := hafter'
  have hsame : ending = ending' := by
    cases ending <;> cases ending' <;> cases hending <;> rfl
  rw [hrun, hrun', hsame]

section Seeded

variable (hs : s.error = none) (hfaults : s.faults ≠ [])
  (hseeded : s.Does a settings (.beforeTest :: s.stages 0 false 0) state seeded)
include hs hfaults hseeded

theorem endsWith_of_fault (hdispatches : s.Dispatches a settings seeded before command mid)
    (hfault : (a.dispatch command mid).within (settings.limit mid) =
      (after, some (.error fault))) :
    s.EndsWith a settings c state (.beforeTest :: s.stages (before.length + 1) false 0) after
      (s.faults.forM fun expected => expected.check a.faults fault) := by
  obtain ⟨behind, hcommands, hdoes⟩ := hdispatches
  have hplan : s.plan = s.stages before.length false 0 ++
      .dispatch command :: (behind.map .dispatch ++ .published ::
        if s.faults.isEmpty then (List.range s.checks.length).map .check else []) := by
    simp [plan, stages, hcommands]
  have hstages : s.stages (before.length + 1) false 0 =
      s.stages before.length false 0 ++ [.dispatch command] := by
    have hnext := stages_append (show s.commands = (before ++ [command]) ++ behind by
      rw [hcommands, List.append_assoc]
      rfl)
    rw [List.length_append, List.length_singleton] at hnext
    rw [hnext, stages_append hcommands, List.map_append, List.append_assoc]
    rfl
  have hdone : s.Does a settings (.beforeTest :: s.stages before.length false 0) state mid := by
    rw [stages_append hcommands]
    exact hseeded.append hdoes
  have hanswer : s.answer a settings (.dispatch command) mid = (after, .fault fault) := by
    rw [answer, answerIn, hfault]
    rfl
  have hends := run_of_stopped (c := c) hs hplan hdone hanswer rfl
  have hverdict : s.verdict a settings c [(.dispatch command, .fault fault)] =
      s.faults.forM fun expected => expected.check a.faults fault := by
    rw [verdict, List.findSome?_cons, judge_fault hfaults]
    cases s.faults.forM fun expected => expected.check a.faults fault <;> rfl
  rw [hverdict] at hends
  rw [hstages]
  exact hends

theorem weighs_of_fault (hdispatches : s.Dispatches a settings seeded before command mid)
    (hfault : (a.dispatch command mid).within (settings.limit mid) =
      (after, some (.error fault))) :
    s.Weighs a settings c state (before.length + 1) after fault
      (s.faults.forM fun expected => expected.check a.faults fault) where
  ends := endsWith_of_fault hs hfaults hseeded hdispatches hfault
  ok := forM_eq_ok_iff
  first := fun before expected behind _ hsplit hbefore herror =>
    forM_eq_error_iff.2 ⟨before, expected, behind, hsplit, hbefore, herror⟩
  blind := fun _ => (endsWith_of_fault hs hfaults hseeded hdispatches hfault).run_eq
    (endsWith_of_fault hs hfaults hseeded hdispatches hfault)

omit hfaults in
theorem misses_of_answer (hdoes : s.Does a settings (s.commands.map .dispatch) seeded acted)
    {result : Option (Except Error (Streams ε))} {answer : Answer ε χ} {error : Error}
    (hwithin : (a.published acted).within (settings.limit acted) = (after, result))
    (hanswer : s.answer a settings .published acted = (after, answer))
    (hjudge : s.judge a settings c answer = some error)
    (hinstead : Instead settings c result error) :
    s.Misses a settings c state acted error := by
  have hdone : s.Does a settings (.beforeTest :: s.stages s.commands.length false 0) state
      acted := by
    rw [stages_append (List.append_nil _).symm]
    exact hseeded.append hdoes
  constructor
  · rw [hwithin, stages_looked]
    exact run_of_failing hs plan_eq_append hdone hanswer hjudge
  · rw [hwithin]
    exact hinstead

theorem exists_misses (hdoes : s.Does a settings (s.commands.map .dispatch) seeded acted) :
    ∃ error, s.Misses a settings c state acted error := by
  rcases hwithin : (a.published acted).within (settings.limit acted) with
    ⟨after, _ | error | streams⟩
  · have hanswer : s.answer a settings .published acted =
        (after, .failed (.timeout Phase.published.text settings.timeout)) := by
      rw [answer, answerIn, hwithin]
    exact ⟨_, misses_of_answer hs hseeded hdoes hwithin hanswer rfl .late⟩
  · have hanswer : s.answer a settings .published acted = (after, .failed error) := by
      rw [answer, answerIn, hwithin]
      rfl
    exact ⟨_, misses_of_answer hs hseeded hdoes hwithin hanswer rfl .failed⟩
  · have hanswer : s.answer a settings .published acted = (after, .published streams) := by
      rw [answer, answerIn, hwithin]
      rfl
    rcases c.covers_or_firstError streams.allEvents with hcovers | ⟨error, hfirst⟩
    · obtain ⟨text, hmissing, htells⟩ := missingFault_of_covers hcovers
      exact ⟨_, misses_of_answer hs hseeded hdoes hwithin hanswer
        (judge_published hfaults (.inl hmissing)) (.missing hcovers htells)⟩
    · have hmissing := missingFault_eq_error_iff.2 hfirst
      exact ⟨_, misses_of_answer hs hseeded hdoes hwithin hanswer
        (judge_published hfaults (.inr hmissing)) (.unreadable hfirst)⟩

end Seeded

/-- A run that expects an error, once the system is prepared and the history is seeded. If no
command takes too long, either one of them returns an error, or all of them are done. In the first
case the expectations decide, and nothing else of the system is looked at. In the second case the
run fails. Neither the chains nor the checks change anything. -/
theorem run_expectations (hs : s.error = none) (hfaults : s.faults ≠ [])
    (hseeded : s.Does a settings (.beforeTest :: s.stages 0 false 0) state seeded)
    (htimely : ∀ before command mid, s.Dispatches a settings seeded before command mid →
      ((a.dispatch command mid).within (settings.limit mid)).2 ≠ none) :
    ((∃ before command mid after fault, s.Dispatches a settings seeded before command mid ∧
        (a.dispatch command mid).within (settings.limit mid) =
          (after, some (.error fault))) ∨
      ∃ acted, s.Does a settings (s.commands.map .dispatch) seeded acted) ∧
    (∀ before command mid after fault, s.Dispatches a settings seeded before command mid →
      (a.dispatch command mid).within (settings.limit mid) =
        (after, some (.error fault)) →
      ∃ outcome, s.Weighs a settings c state (before.length + 1) after fault outcome) ∧
    (∀ acted, s.Does a settings (s.commands.map .dispatch) seeded acted →
      ∃ error, s.Misses a settings c state acted error) ∧
    ∀ chains checks, ({ s with chains, checks } : Scenario ε κ χ ς).run a settings c state =
      s.run a settings c state :=
  ⟨dispatches_or_does seeded htimely,
    fun _ _ _ _ _ hdispatches hfault =>
      ⟨_, weighs_of_fault hs hfaults hseeded hdispatches hfault⟩,
    fun _ hdoes => exists_misses hs hfaults hseeded hdoes, run_eq_of_faults hfaults⟩

end Runs

/-- A deposit and a withdrawal, one of which is expected to fail. The account is expected to get no
events, and the check does not pass. -/
def withdrawing (amount : Int64) : Scenario Bank.Event Bank.Command Bank.Fault Bank.Fees where
  commands := [.deposit "acc-1" 10, .withdraw "acc-1" amount]
  chains := [("acc-1", .nothing)]
  checks := [.after none fun fees => (fees, .failed none)]
  faults := [.isType (Bank.Fault.type "Fault")]

/-- A withdrawal that the deposit does not cover makes the run succeed. One that it covers makes it
fail. -/
theorem run_expectations_withdrawing :
    let bank := Bank.adapter .wrapping "Fault"
    ((withdrawing 50).run bank {} .byLabel {}).result = .ok () ∧
      ((withdrawing 5).run bank {} .byLabel {}).result ≠ .ok () := by
  intro bank
  let funded : Bank := Bank.publish {} "acc-1" (.deposited 10)
  have hseeded (amount : Int64) : (withdrawing amount).Does bank {} [.beforeTest, .seed ∅] {} {} :=
    .cons rfl (.cons rfl .nil)
  have htimely (amount : Int64) : ∀ before command mid,
      (withdrawing amount).Dispatches bank {} {} before command mid →
        ((bank.dispatch command mid).within (Settings.limit {} mid)).2 ≠ none := by
    intro _ command mid _
    obtain ⟨answer, hanswer⟩ := mid.bank.exists_dispatch_wrapping command
    simp only [bank, Bank.adapter, hanswer]
    exact Option.some_ne_none _
  constructor
  · have hdispatches : (withdrawing 50).Dispatches bank {} {} [.deposit "acc-1" 10]
        (.withdraw "acc-1" 50) { bank := funded } := ⟨[], rfl, .cons rfl .nil⟩
    obtain ⟨-, hreturned, -⟩ := run_expectations (c := .byLabel) (a := bank) rfl
      (List.cons_ne_nil _ _) (hseeded 50) (htimely 50)
    obtain ⟨outcome, hweighs⟩ :=
      hreturned _ _ _ { bank := funded } (.insufficientFunds 10 50) hdispatches rfl
    have hok : outcome = .ok () := by
      rw [hweighs.ok, withdrawing, List.forall_mem_singleton]
      rfl
    obtain ⟨final, ending, hafter, hrun⟩ := hweighs.ends
    cases ending with
    | ok =>
      rw [hrun, hok]
      rfl
    | error error => cases hafter
  · obtain ⟨-, -, hmissing, -⟩ := run_expectations (c := .byLabel) (a := bank) rfl
      (List.cons_ne_nil _ _) (hseeded 5) (htimely 5)
    obtain ⟨error, hmisses⟩ :=
      hmissing { bank := funded.publish "acc-1" (.withdrawn 5) } (.cons rfl (.cons rfl .nil))
    obtain ⟨final, ending, -, hrun⟩ := hmisses.ends
    rw [hrun]
    exact nofun

end Scenario

end GivenWhenThen
