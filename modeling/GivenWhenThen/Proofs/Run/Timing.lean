import GivenWhenThen.Proofs.Run.Origin

/-! The calls of a run under one clock, which counts nanoseconds. `Scenario.visits` makes calls one
after the other, each under a timer of its own, which starts when the call is made. `Scenario.Timed`
says what becomes of them: which calls are done in time, what a call that is not does to the run,
and that no other error of a run looks like that. By `timed_run` it holds of every run, whatever
timers there are: all that is asked of a timer is that it does not fire too early, and that a call
which is ready by then is polled before it. -/

namespace GivenWhenThen

variable {σ ε κ χ ς : Type}

/-- The time that a change leaves for each call. -/
def Settings.Change.timeout : Change → Duration
  | within timeout => timeout
  | replace settings => settings.timeout

/-- A call on the clock. -/
structure Visit (σ ε κ χ : Type) where
  call : Interaction ε κ
  /-- When the call is made. -/
  start : Nat
  before : σ
  /-- When the run goes on. -/
  stop : Nat
  after : σ
  /-- The answer of the call; it is missing if the timer ended the call. -/
  answer : Option (Answer ε χ)

/-- What the run makes of a call on the clock: its answer, or that its time has ended. -/
def Visit.reply (settings : Settings) (v : Visit σ ε κ χ) : Answer ε χ :=
  match v.answer, v.call.phase? with
  | some answer, _ => answer
  | none, some phase => .failed (.timeout phase.text settings.timeout)
  | none, none => .done

namespace Scenario

variable (a : Adapter σ ε κ χ ς) (settings : Settings) (c : Canonicalizer ε) (s : Scenario ε κ χ ς)

/-- Makes a call at the time `now`, under a timer for the time of the settings. -/
def visit [Timer σ] (call : Interaction ε κ) (now : Nat) (state : σ) : Visit σ ε κ χ :=
  let ended := (s.task a call state).runUntil (now + (settings.limit state).nanoseconds) now
  { call, start := now, before := state, stop := ended.1, after := ended.2.1, answer := ended.2.2 }

/-- Makes calls one after the other from the time `now` on. -/
def visits [Timer σ] : List (Interaction ε κ) → Nat → σ → List (Visit σ ε κ χ)
  | [], _, _ => []
  | call :: rest, now, state =>
    let v := s.visit a settings call now state
    v :: visits rest v.stop v.after

/-- The error that the visits mean for the run, if any. -/
def outcome (visits : List (Visit σ ε κ χ)) : Except Error Unit :=
  s.verdict a settings c (visits.map fun v => (v.call, v.reply settings))

/-- The calls of a run that begins at the time `now`, on the clock. -/
structure Timed [Timer σ] (now : Nat) (state : σ) (visits : List (Visit σ ε κ χ)) : Prop where
  calls : visits.map Visit.call = (s.run a settings c state).interactions
  first : ∀ v ∈ visits.head?, v.start = now ∧ v.before = state
  /-- Each call is made when the one before has ended, in the state that it has left. -/
  follows : visits.IsChain fun u v => v.start = u.stop ∧ v.before = u.after
  last : ∀ v ∈ visits.getLast?, v.after = (s.run a settings c state).state
  result : (s.run a settings c state).result =
    match s.error with
    | some error => .error error
    | none => s.outcome a settings c visits
  /-- No timer fires before the call has had the time of the settings, from its own start on. -/
  whole : ∀ v ∈ visits, settings.timeout ≤ settings.limit v.before
  /-- A call that is ready when its timer fires, or before, is done. -/
  inTime : ∀ v ∈ visits, ∀ length, (s.task a v.call v.before).duration? = some length →
    length ≤ settings.limit v.before →
      v.stop = v.start + length.nanoseconds ∧ v.answer.isSome = true
  /-- A call that is not is ended when its timer fires. -/
  late : ∀ v ∈ visits,
    (∀ length, (s.task a v.call v.before).duration? = some length →
      settings.limit v.before < length) →
    v.stop = v.start + (settings.limit v.before).nanoseconds ∧ v.answer = none
  /-- A call that is ready at once is done, even if it is given no time at all. -/
  ready : ∀ v ∈ visits, ∀ next answer, s.task a v.call v.before = .done next answer →
    v.stop = v.start ∧ v.after = next ∧ v.answer = some answer
  /-- The run ends with the end of a time only where a call was not done by then. -/
  arises : ∀ phase bound, (s.run a settings c state).result = .error (.timeout phase bound) →
    s.Foreign a settings c state (.timeout phase bound) ∨
      bound = settings.timeout ∧
        ∃ v ∈ visits, v.answer = none ∧ v.call.phase?.map Phase.text = some phase
  /-- Such a call, a command as any other, is the end of the run, up to the call that ends the
  system. -/
  stops : ∀ before v behind, visits = before ++ v :: behind → v.answer = none →
    v.call ≠ .afterTest →
      behind.map Visit.call = v.call.closing ∧
      ∃ phase, v.call.phase? = some phase ∧
        (s.run a settings c state).result = .error (.timeout phase.text settings.timeout)
  /-- If it is the call that ends the system, errors of the calls before it come first. -/
  ends : ∀ before v, visits = before ++ [v] → v.answer = none → v.call = .afterTest →
    (s.run a settings c state).result =
      (s.outcome a settings c before).bind fun () =>
        .error (.timeout Phase.afterTest.text settings.timeout)

variable {a settings c s} {state final : σ} {now : Nat} {call : Interaction ε κ}
  {calls : List (Interaction ε κ)} {v : Visit σ ε κ χ}

/-! ### One call -/

section Calls

variable [Timer σ]

variable (a settings s) in
theorem visit_eq (call : Interaction ε κ) (now : Nat) (state : σ) :
    (s.task a call state).within (settings.limit state) =
      ((s.visit a settings call now state).after, (s.visit a settings call now state).answer) :=
  Task.within_eq now

/-- On the clock, a call is answered as it is without. -/
theorem answer_eq_reply (call : Interaction ε κ) (now : Nat) (state : σ) :
    s.answer a settings call state =
      ((s.visit a settings call now state).after,
        (s.visit a settings call now state).reply settings) := by
  have hwithin := visit_eq a settings s call now state
  rcases answersIn_answer a settings s call state with
    ⟨next, answer, htask, heq⟩ | ⟨phase, next, hphase, htask, heq⟩
  · rw [htask, Prod.mk.injEq] at hwithin
    rw [heq, Visit.reply, ← hwithin.1, ← hwithin.2]
  · rw [htask, Prod.mk.injEq] at hwithin
    rw [heq, Visit.reply, ← hwithin.1, ← hwithin.2]
    simp only [visit, hphase]

theorem visit_of_le {length : Duration} (h : (s.task a call state).duration? = some length)
    (hle : length ≤ settings.limit state) :
    (s.visit a settings call now state).stop = now + length.nanoseconds ∧
      (s.visit a settings call now state).answer.isSome = true := by
  have hdeadline := Nat.add_le_add_left (Duration.le_iff.1 hle) now
  obtain ⟨next, answer, hrun⟩ := Task.runUntil_of_le h hdeadline
  rw [visit, hrun]
  exact ⟨rfl, rfl⟩

theorem visit_of_lt
    (h : ∀ length, (s.task a call state).duration? = some length →
      settings.limit state < length) :
    (s.visit a settings call now state).stop = now + (settings.limit state).nanoseconds ∧
      (s.visit a settings call now state).answer = none := by
  have hlate : ∀ length, (s.task a call state).duration? = some length →
      now + (settings.limit state).nanoseconds < now + length.nanoseconds :=
    fun length hlength => Nat.add_lt_add_left (Duration.lt_iff.1 (h length hlength)) now
  obtain ⟨next, hrun⟩ := Task.runUntil_of_lt (Nat.le_add_right _ _) hlate
  rw [visit, hrun]
  exact ⟨rfl, rfl⟩

theorem visit_of_done {next : σ} {answer : Answer ε χ}
    (h : s.task a call state = .done next answer) :
    (s.visit a settings call now state).stop = now ∧
      (s.visit a settings call now state).after = next ∧
      (s.visit a settings call now state).answer = some answer := by
  rw [visit, h]
  exact ⟨rfl, rfl, rfl⟩

theorem exists_phase_of_visit (h : (s.visit a settings call now state).answer = none) :
    ∃ phase, call.phase? = some phase ∧
      (s.visit a settings call now state).reply settings =
        .failed (.timeout phase.text settings.timeout) := by
  have hwithin := visit_eq a settings s call now state
  rcases answersIn_answer a settings s call state with
    ⟨next, answer, htask, -⟩ | ⟨phase, next, hphase, -, heq⟩
  · rw [htask, h] at hwithin
    cases hwithin
  · rw [answer_eq_reply call now state, Prod.mk.injEq] at heq
    exact ⟨phase, hphase, heq.2⟩

/-! ### Calls in a row -/

section Row

variable (a settings s)

theorem map_call_visits (calls : List (Interaction ε κ)) (now : Nat) (state : σ) :
    (s.visits a settings calls now state).map Visit.call = calls := by
  induction calls generalizing now state with
  | nil => rfl
  | cons call calls ih =>
    rw [visits, List.map_cons, ih]
    rfl

theorem head?_visits (calls : List (Interaction ε κ)) (now : Nat) (state : σ) :
    ∀ v ∈ (s.visits a settings calls now state).head?, v.start = now ∧ v.before = state := by
  cases calls with
  | nil => exact nofun
  | cons call calls =>
    rintro v ⟨⟩
    exact ⟨rfl, rfl⟩

theorem isChain_visits (calls : List (Interaction ε κ)) (now : Nat) (state : σ) :
    (s.visits a settings calls now state).IsChain fun u v =>
      v.start = u.stop ∧ v.before = u.after := by
  induction calls generalizing now state with
  | nil => exact .nil
  | cons call calls ih =>
    rw [visits, List.isChain_cons]
    exact ⟨head?_visits a settings s calls _ _, ih _ _⟩

variable {a settings s}

theorem eq_visit_of_mem (h : v ∈ s.visits a settings calls now state) :
    v = s.visit a settings v.call v.start v.before := by
  induction calls generalizing now state with
  | nil => cases h
  | cons call calls ih =>
    rw [visits] at h
    rcases List.mem_cons.1 h with rfl | h
    · rfl
    · exact ih h

theorem exists_visit (before : List (Interaction ε κ)) (call : Interaction ε κ)
    (behind : List (Interaction ε κ)) (now : Nat) (state : σ) :
    ∃ v ∈ s.visits a settings (before ++ call :: behind) now state,
      v.call = call ∧ v.before = s.after a settings before state := by
  induction before generalizing now state with
  | nil => exact ⟨_, List.mem_cons_self, rfl, rfl⟩
  | cons other before ih =>
    obtain ⟨v, hv, hcall, hstate⟩ := ih (s.visit a settings other now state).stop
      (s.visit a settings other now state).after
    refine ⟨v, List.mem_cons_of_mem _ hv, hcall, ?_⟩
    rw [hstate, after_cons, answer_eq_reply other now state]

theorem Answered.eq_visits {calls : List (Interaction ε κ × Answer ε χ)}
    (h : s.Answered a settings state calls final) (now : Nat) :
    calls = (s.visits a settings (calls.map Prod.fst) now state).map
        (fun v => (v.call, v.reply settings)) ∧
      ∀ v ∈ (s.visits a settings (calls.map Prod.fst) now state).getLast?, v.after = final := by
  induction h generalizing now with
  | nil => exact ⟨rfl, nofun⟩
  | @cons state next final call answer calls first rest ih =>
    rw [answer_eq_reply call now state, Prod.mk.injEq] at first
    obtain ⟨hafter, hreply⟩ := first
    obtain ⟨hcalls, hlast⟩ := ih (s.visit a settings call now state).stop
    rw [List.map_cons, visits, hafter]
    constructor
    · rw [List.map_cons, ← hcalls, hreply]
      rfl
    · rw [List.getLast?_cons]
      rintro v ⟨⟩
      cases hrest : (s.visits a settings (calls.map Prod.fst)
          (s.visit a settings call now state).stop next).getLast? with
      | some v => exact hlast v hrest
      | none =>
        -- The call is the last one, so that the state that it leaves is the final one.
        rw [List.getLast?_eq_none_iff] at hrest
        rw [hrest] at hcalls
        subst hcalls
        cases rest
        exact hafter

end Row

/-! ### The calls of a run -/

omit [Timer σ] in
theorem verdict_of_goesOn {calls : List (Interaction ε κ × Answer ε χ)}
    (h : ∀ call ∈ calls, s.goesOn a settings c call.2 = true) :
    s.verdict a settings c calls = .ok () := by
  induction calls with
  | nil => rfl
  | cons call calls ih =>
    rw [verdict_cons (judge_eq_none_of_goesOn (h call List.mem_cons_self))]
    exact ih fun other hother => h other (List.mem_cons_of_mem _ hother)

theorem Record.goesOn_before {run : Ended σ ε κ}
    {before behind : List (Interaction ε κ × Answer ε χ)} {call : Interaction ε κ × Answer ε χ}
    (h : s.Record a settings c state run (before ++ call :: behind)) (hcall : call.1 ≠ .afterTest) :
    ∀ other ∈ before, s.goesOn a settings c other.2 = true := by
  intro other hother
  by_contra hstop
  -- Behind a call that stops the run there is only the call that ends the system.
  obtain ⟨first, between, rfl⟩ := List.append_of_mem hother
  have hclosing := h.stops first other (between ++ call :: behind) (by simp)
    (Bool.eq_false_iff.2 hstop)
  have hmem : call.1 ∈ other.1.closing := by
    rw [← hclosing]
    simp
  revert hmem
  cases other.1 <;> simp [Interaction.closing, hcall]

section Expired

variable {before behind : List (Visit σ ε κ χ)} (hs : s.error = none)
  (h : s.visits a settings (s.run a settings c state).interactions now state =
    before ++ v :: behind)
include hs h

theorem record_visits :
    s.Record a settings c state (s.run a settings c state)
      (before.map (fun v => (v.call, v.reply settings)) ++
        (v.call, v.reply settings) :: behind.map fun v => (v.call, v.reply settings)) := by
  obtain ⟨calls, hrecord⟩ := exists_record a settings c hs state
  have hcalls := (hrecord.answered.eq_visits now).1
  rw [← hrecord.interactions, h, List.map_append, List.map_cons] at hcalls
  rwa [hcalls] at hrecord

/-- A call that the timer ended stops the run, and is its result if no error was before. -/
theorem stops_of_expired (hanswer : v.answer = none) :
    behind.map Visit.call = v.call.closing ∧
      ∃ phase, v.call.phase? = some phase ∧
        (s.run a settings c state).result =
          (s.outcome a settings c before).bind fun () =>
            .error (.timeout phase.text settings.timeout) := by
  have hrecord := record_visits hs h
  have hmem : v ∈ s.visits a settings (s.run a settings c state).interactions now state := by
    rw [h]
    simp
  have hvisit := eq_visit_of_mem hmem
  rw [hvisit] at hanswer
  obtain ⟨phase, hphase, hreply⟩ := exists_phase_of_visit hanswer
  rw [← hvisit] at hreply
  constructor
  · have hstop : s.goesOn a settings c (v.reply settings) = false := by
      rw [hreply]
      rfl
    have hclosing := hrecord.stops _ _ _ rfl hstop
    rwa [List.map_map] at hclosing
  · refine ⟨phase, hphase, ?_⟩
    rw [hrecord.result, verdict_append, hreply]
    rfl

theorem outcome_before (hcall : v.call ≠ .afterTest) : s.outcome a settings c before = .ok () :=
  verdict_of_goesOn ((record_visits hs h).goesOn_before hcall)

end Expired

/-- A run that ends with the end of a time has a call that was not done by then, unless the error is
foreign. -/
theorem exists_expired (hs : s.error = none) (hchains : ∀ entry ∈ s.chains, entry.2.Executable)
    (now : Nat) {phase : String} {bound : Duration}
    (h : (s.run a settings c state).result = .error (.timeout phase bound)) :
    s.Foreign a settings c state (.timeout phase bound) ∨
      bound = settings.timeout ∧
        ∃ v ∈ s.visits a settings (s.run a settings c state).interactions now state,
          v.answer = none ∧ v.call.phase?.map Phase.text = some phase := by
  rcases origin_of_result hs hchains h with hforeign | hexpires | hassertion
  · exact .inl hforeign
  · obtain ⟨call, p, mid, ⟨before, behind, hinteractions, hmid⟩, hphase, hnone, herror⟩ := hexpires
    obtain ⟨v, hv, hcall, hbefore⟩ := exists_visit before call behind now state
    rw [← hinteractions] at hv
    rw [Error.timeout.injEq] at herror
    refine .inr ⟨herror.2, v, hv, ?_, by rw [hcall, hphase, herror.1]; rfl⟩
    rw [eq_visit_of_mem hv, hcall, hbefore, hmid]
    rwa [visit_eq a settings s call v.start mid] at hnone
  · cases hassertion

/-! ### The run -/

theorem timed_of_built (hs : s.error = none) (hchains : ∀ entry ∈ s.chains, entry.2.Executable)
    (now : Nat) (state : σ) :
    s.Timed a settings c now state
      (s.visits a settings (s.run a settings c state).interactions now state) := by
  obtain ⟨calls, hrecord⟩ := exists_record a settings c hs state
  obtain ⟨hcalls, hlast⟩ := hrecord.answered.eq_visits now
  rw [← hrecord.interactions] at hcalls hlast
  constructor
  case calls => exact map_call_visits ..
  case first => exact head?_visits _ _ _ _ _ _
  case follows => exact isChain_visits ..
  case last => exact hlast
  case result =>
    rw [hs, hrecord.result, hcalls]
    rfl
  case whole => exact fun v _ => Timer.le_limit _ v.before
  case inTime =>
    intro v hv length hlength hle
    rw [eq_visit_of_mem hv]
    exact visit_of_le hlength hle
  case late =>
    intro v hv hlong
    rw [eq_visit_of_mem hv]
    exact visit_of_lt hlong
  case ready =>
    intro v hv next answer htask
    rw [eq_visit_of_mem hv]
    exact visit_of_done htask
  case arises => exact fun _ _ => exists_expired hs hchains now
  case stops =>
    intro before v behind h hanswer hcall
    obtain ⟨hclosing, phase, hphase, hresult⟩ := stops_of_expired hs h hanswer
    rw [outcome_before hs h hcall] at hresult
    exact ⟨hclosing, phase, hphase, hresult⟩
  case ends =>
    intro before v h hanswer hcall
    obtain ⟨-, phase, hphase, hresult⟩ := stops_of_expired hs h hanswer
    rw [hcall] at hphase
    cases hphase
    exact hresult

theorem timed_of_error {error : Error} (hs : s.error = some error)
    (hconstruction : error.isConstruction = true) (now : Nat) (state : σ) :
    s.Timed a settings c now state [] := by
  have hrun : s.run a settings c state = ⟨.error error, state, []⟩ := by simp only [run, hs]
  constructor
  case calls => rw [hrun, List.map_nil]
  case follows => exact .nil
  case result => rw [hs, hrun]
  case arises =>
    intro phase bound hresult
    rw [hrun] at hresult
    cases hresult
    cases hconstruction
  all_goals simp

end Calls

theorem timeout_configure (changes : List Settings.Change) :
    (Settings.configure changes).timeout =
      changes.getLast?.elim (.ofSeconds 5) Settings.Change.timeout := by
  induction changes using List.reverseRecOn with
  | nil => rfl
  | append_singleton changes change ih =>
    rw [Settings.configure, List.foldl_append, List.getLast?_concat]
    cases change <;> rfl

/-- The time for each call is the one that was set last, or five seconds. Whatever the scenario, the
system, its timers and the time of day, the calls of a run get that time, each from its own start
on. -/
theorem timed_run [PatternEngine] [Timer σ] (home : Option StreamId)
    (clauses : List (Clause ε κ χ ς)) (a : Adapter σ ε κ χ ς) (changes : List Settings.Change)
    (c : Canonicalizer ε) (now : Nat) (state : σ) :
    (Settings.configure changes).timeout =
      changes.getLast?.elim (.ofSeconds 5) Settings.Change.timeout ∧
    (build home clauses).Timed a (Settings.configure changes) c now state
      ((build home clauses).visits a (Settings.configure changes)
        ((build home clauses).run a (Settings.configure changes) c state).interactions now
        state) := by
  refine ⟨timeout_configure changes, ?_⟩
  cases hs : (build home clauses).error with
  | none => exact timed_of_built hs (executable_of_build hs) now state
  | some error =>
    have hrun : ((build home clauses).run a (Settings.configure changes) c state).interactions =
        [] := by simp only [run, hs]
    rw [hrun]
    exact timed_of_error hs (isConstruction_of_build hs) now state

end Scenario

end GivenWhenThen
