import GivenWhenThen.Proofs.Run.Lifecycle
import GivenWhenThen.Proofs.Task

/-! The whole of a run as one list of calls, the first and the last call included. By
`exists_record` the calls of a run are answered one after the other, the result is the first error
that an answer means, and behind an answer that does not let the run go on there is only the call
that ends the system, if it was prepared. `Scenario.task` is the task behind a call, and
`answersIn_answer` tells the answers that the task itself gives from those that stand for the end of
its time. -/

namespace GivenWhenThen

variable {σ ε κ χ ς α : Type}

namespace Interaction

/-- The phase of a call that takes time. -/
def phase? : Interaction ε κ → Option Phase
  | beforeTest => some .beforeTest
  | arrange _ => none
  | seed _ => some .seed
  | dispatch _ => some .dispatch
  | published => some .published
  | check _ => some .check
  | afterTest => some .afterTest

/-- The calls that a run still makes behind this one if it goes wrong. -/
def closing : Interaction ε κ → List (Interaction ε κ)
  | beforeTest | afterTest => []
  | arrange _ | seed _ | dispatch _ | published | check _ => [afterTest]

end Interaction

namespace Scenario

variable (a : Adapter σ ε κ χ ς) (settings : Settings) (c : Canonicalizer ε) (s : Scenario ε κ χ ς)

/-- The task of a call, with the answer that its result means. -/
def task : Interaction ε κ → σ → Task σ (Answer ε χ)
  | .beforeTest, state => (a.beforeTest state).map .ofResult
  | .arrange index, state =>
    match s.arrangements[index]? with
    | some action => .done (a.withServices state (action (a.services state))) .done
    | none => .done state .done
  | .seed given, state => (a.seed given state).map .ofResult
  | .dispatch command, state => (a.dispatch command state).map .ofDispatch
  | .published, state => (a.published state).map .ofPublished
  | .check index, state =>
    match s.checks[index]? with
    | some check => ((check (a.services state)).mapState (a.withServices state)).map .ofVerdict
    | none => .done state .done
  | .afterTest, state => (a.afterTest state).map .ofResult

/-- A call is answered by its own task, or its time ends before. -/
def AnswersIn (phase? : Option Phase) (timed : σ × Option (Answer ε χ))
    (answered : σ × Answer ε χ) : Prop :=
  (∃ next answer, timed = (next, some answer) ∧ answered = (next, answer)) ∨
  ∃ phase next, phase? = some phase ∧ timed = (next, none) ∧
    answered = (next, .failed (.timeout phase.text settings.timeout))

/-- The state after the calls. -/
def after [Timer σ] (calls : List (Interaction ε κ)) (state : σ) : σ :=
  calls.foldl (fun state call => (s.answer a settings call state).1) state

/-- What a run from the state makes of the calls of the adapter and their answers. -/
structure Record [Timer σ] (state : σ) (run : Ended σ ε κ)
    (calls : List (Interaction ε κ × Answer ε χ)) : Prop where
  answered : s.Answered a settings state calls run.state
  interactions : run.interactions = calls.map Prod.fst
  /-- The result is the first error that an answer means. -/
  result : run.result = s.verdict a settings c calls
  /-- An answer that does not let the run go on leaves only the end of the run to do. -/
  stops : ∀ before call behind, calls = before ++ call :: behind →
    s.goesOn a settings c call.2 = false → behind.map Prod.fst = call.1.closing

variable {a settings c s} {state mid next final : σ} {call : Interaction ε κ}
  {calls before behind : List (Interaction ε κ × Answer ε χ)}

/-! ### The task of a call -/

theorem answersIn_answerIn (limit : Duration) (phase : Phase) (f : α → Answer ε χ)
    (task : Task σ α) :
    AnswersIn settings (some phase) ((task.map f).within limit)
      (answerIn settings limit phase f task) := by
  rw [answerIn, Task.within_map]
  rcases task.within limit with ⟨next, _ | result⟩
  · exact .inr ⟨phase, next, rfl, rfl, rfl⟩
  · exact .inl ⟨next, f result, rfl, rfl⟩

variable [Timer σ]

variable (a settings s) in
theorem answersIn_answer (call : Interaction ε κ) (state : σ) :
    AnswersIn settings call.phase? ((s.task a call state).within (settings.limit state))
      (s.answer a settings call state) := by
  cases call with
  | beforeTest => exact answersIn_answerIn _ _ _ _
  | seed given => exact answersIn_answerIn _ _ _ _
  | dispatch command => exact answersIn_answerIn _ _ _ _
  | published => exact answersIn_answerIn _ _ _ _
  | afterTest => exact answersIn_answerIn _ _ _ _
  | arrange index =>
    simp only [task, answer]
    cases s.arrangements[index]? with
    | none => exact .inl ⟨_, _, rfl, rfl⟩
    | some action => exact .inl ⟨_, _, rfl, rfl⟩
  | check index =>
    simp only [task, answer]
    cases s.checks[index]? with
    | none => exact .inl ⟨_, _, rfl, rfl⟩
    | some check => exact answersIn_answerIn _ _ _ _

/-! ### Calls in a row -/

theorem after_cons (call : Interaction ε κ) (calls : List (Interaction ε κ)) (state : σ) :
    s.after a settings (call :: calls) state =
      s.after a settings calls (s.answer a settings call state).1 := rfl

theorem Answered.answer_eq {call : Interaction ε κ × Answer ε χ}
    (h : s.Answered a settings state (before ++ call :: behind) final) :
    (s.answer a settings call.1 (s.after a settings (before.map Prod.fst) state)).2 = call.2 := by
  induction before generalizing state with
  | nil =>
    obtain _ | ⟨first, -⟩ := h
    exact congrArg Prod.snd first
  | cons other before ih =>
    obtain _ | ⟨first, rest⟩ := h
    rw [List.map_cons, after_cons, first]
    exact ih rest

/-! ### The calls of a run -/

omit [Timer σ] in
theorem closing_of_mem_plan (h : call ∈ s.plan) : call.closing = [.afterTest] := by
  have hcases : (∃ index, call = .arrange index) ∨ call = .seed s.given ∨
      (∃ command, call = .dispatch command) ∨ call = .published ∨ ∃ index, call = .check index := by
    rw [plan] at h
    split at h
    · simp only [List.mem_append, List.mem_cons, List.mem_map] at h
      grind
    · simp only [List.mem_append, List.mem_cons, List.mem_map] at h
      grind
  rcases hcases with ⟨_, rfl⟩ | rfl | ⟨_, rfl⟩ | rfl | ⟨_, rfl⟩ <;> rfl

theorem record_of_failed {error : Error}
    (hbefore : s.answer a settings .beforeTest state = (next, .failed error)) :
    s.Record a settings c state ⟨.error error, next, [.beforeTest]⟩
      [(.beforeTest, .failed error)] := by
  refine ⟨.cons hbefore .nil, rfl, rfl, fun before call behind h hstop => ?_⟩
  rcases List.cons_eq_append_iff.1 h with ⟨-, h⟩ | ⟨before, -, h⟩
  · cases h
    rfl
  · cases before <;> cases h

omit [Timer σ] in
/-- Of the calls of a prepared run, only the last one that follows the plan and the call that ends
the run may not let it go on. -/
theorem stops_of_prepared {last : Answer ε χ}
    (hplan : ∀ call ∈ calls, call.1 ∈ s.plan)
    (hgo : ∀ call ∈ calls.dropLast, s.goesOn a settings c call.2 = true)
    {call : Interaction ε κ × Answer ε χ}
    (h : (.beforeTest, .done) :: (calls ++ [(.afterTest, last)]) = before ++ call :: behind)
    (hstop : s.goesOn a settings c call.2 = false) : behind.map Prod.fst = call.1.closing := by
  rcases List.cons_eq_append_iff.1 h with ⟨-, h⟩ | ⟨before, -, h⟩
  · cases h
    cases hstop
  · rcases List.append_eq_append_iff.1 h with ⟨skipped, -, hlast⟩ | ⟨taken, hcalls, hbehind⟩
    · rcases List.cons_eq_append_iff.1 hlast with ⟨-, h⟩ | ⟨skipped, -, h⟩
      · cases h
        rfl
      · cases skipped <;> cases h
    · rcases List.cons_eq_append_iff.1 hbehind with ⟨-, h⟩ | ⟨taken, rfl, rfl⟩
      · cases h
        rfl
      · have hmem : call ∈ calls := by simp [hcalls]
        -- A call behind it would make it one behind which the run goes on.
        have hnil : taken = [] := by
          by_contra hne
          have hdrop : call ∈ calls.dropLast := by
            rw [hcalls, List.dropLast_append_of_ne_nil (List.cons_ne_nil _ _),
              List.dropLast_cons_of_ne_nil hne]
            simp
          rw [hgo call hdrop] at hstop
          cases hstop
        rw [hnil, closing_of_mem_plan (hplan call hmem)]
        rfl

variable (a settings c)

/-- Where building the scenario has not failed, a run has a record of its calls. -/
theorem exists_record (hs : s.error = none) (state : σ) :
    ∃ calls, s.Record a settings c state (s.run a settings c state) calls := by
  obtain ⟨next, prepared, hbefore⟩ := exists_answer_ofResult a settings s .beforeTest state rfl
  cases prepared with
  | error error =>
    rw [run_of_failed hs hbefore]
    exact ⟨_, record_of_failed hbefore⟩
  | ok =>
    have hanswered := answered_follow a settings c s s.plan next
    have hprefix := map_fst_follow a settings c s s.plan next
    have hgo := goesOn_of_mem_dropLast a settings c s s.plan next
    rcases hfollow : s.follow a settings c s.plan next with ⟨calls, mid⟩
    rw [hfollow] at hanswered hprefix hgo
    rcases hafter : s.answer a settings .afterTest mid with ⟨final, last⟩
    rw [run_of_prepared hs hbefore hfollow hafter]
    refine ⟨(.beforeTest, .done) :: (calls ++ [(.afterTest, last)]),
      .cons hbefore (hanswered.append (.cons hafter .nil)), by simp, (verdict_cons rfl).symm,
      fun before call behind h hstop => stops_of_prepared (fun call hcall => ?_) hgo h hstop⟩
    exact hprefix.subset (List.mem_map_of_mem hcall)

end Scenario

end GivenWhenThen
