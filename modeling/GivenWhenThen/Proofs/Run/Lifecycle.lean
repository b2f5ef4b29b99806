import GivenWhenThen.Proofs.Run.Calls
import GivenWhenThen.Proofs.Run.Stage

/-! The calls that a run makes, and what comes of them. Each stage of the code follows its part of
the plan: it makes the planned calls up to the first that does not let the run go on, and ends with
the first error that the answers mean. `follows_body` puts the stages together, and `run_lifecycle`
adds the preparation of the system and its end. -/

namespace GivenWhenThen.Scenario

variable {σ ε κ χ ς α : Type} [Timer σ]

variable (a : Adapter σ ε κ χ ς) (settings : Settings) (c : Canonicalizer ε) (s : Scenario ε κ χ ς)

/-- The stage makes the calls of the plan, up to the first whose answer does not let the run go on,
and ends with the first error that the answers mean. -/
def Follows (plan : List (Interaction ε κ)) (stage : Stage σ ε κ Unit) : Prop :=
  ∀ p : Progress σ ε κ, stage.run p =
    (s.verdict a settings c (s.follow a settings c plan p.state).1,
      ⟨(s.follow a settings c plan p.state).2,
        p.interactions ++ (s.follow a settings c plan p.state).1.map Prod.fst⟩)

variable {a settings c s} {call : Interaction ε κ} {rest tail : List (Interaction ε κ)}

/-! ### One call -/

theorem follows_nil : s.Follows a settings c [] (pure () : Stage σ ε κ Unit) := fun p => by
  obtain ⟨state, interactions⟩ := p
  simp only [follow, List.map_nil, List.append_nil]
  rfl

/-- A stage that makes one call and goes on. -/
theorem follows_cons {x : Stage σ ε κ α} {f : α → Stage σ ε κ Unit}
    (h : ∀ p : Progress σ ε κ,
      (∃ v, x.run p = (.ok v, ⟨(s.answer a settings call p.state).1, p.interactions ++ [call]⟩) ∧
        s.goesOn a settings c (s.answer a settings call p.state).2 = true ∧
        s.Follows a settings c rest (f v)) ∨
      (s.goesOn a settings c (s.answer a settings call p.state).2 = false ∧
        (x >>= f).run p =
          (s.verdict a settings c [(call, (s.answer a settings call p.state).2)],
            ⟨(s.answer a settings call p.state).1, p.interactions ++ [call]⟩))) :
    s.Follows a settings c (call :: rest) (x >>= f) := by
  intro p
  rcases h p with ⟨v, hx, hgo, hrest⟩ | ⟨hstop, hx⟩
  -- An answer that lets the run go on means no error, so that the error is one of the rest.
  · rw [Stage.run_bind_of_ok hx, hrest, follow_of_goesOn hgo,
      verdict_cons (judge_eq_none_of_goesOn hgo)]
    simp only [List.map_cons, List.append_assoc, List.singleton_append]
  · rw [hx, follow_of_not_goesOn hstop]
    rfl

/-- A stage that makes one call that takes time, and goes on unless its time ends. -/
theorem follows_call {phase : Phase} {g : α → Answer ε χ} {task : σ → Task σ α}
    {f : α → Stage σ ε κ Unit}
    (hanswer : ∀ state, s.answer a settings call state =
      answerIn settings (settings.limit state) phase g (task state))
    (h : ∀ v, (s.goesOn a settings c (g v) = true ∧ s.Follows a settings c rest (f v)) ∨
      (s.goesOn a settings c (g v) = false ∧
        ∀ p, (f v).run p = (s.verdict a settings c [(call, g v)], p))) :
    s.Follows a settings c (call :: rest) (Stage.call settings phase call task >>= f) := by
  refine follows_cons fun p => ?_
  rw [hanswer]
  rcases hwithin : (task p.state).within (settings.limit p.state) with ⟨next, _ | v⟩
  · simp only [answerIn, hwithin]
    exact .inr ⟨rfl, Stage.run_bind_of_error (Stage.run_call_of_none hwithin)⟩
  · simp only [answerIn, hwithin]
    rcases h v with ⟨hgo, hrest⟩ | ⟨hstop, hend⟩
    · exact .inl ⟨v, Stage.run_call_of_some hwithin, hgo, hrest⟩
    · exact .inr ⟨hstop, (Stage.run_bind_of_ok (Stage.run_call_of_some hwithin)).trans (hend _)⟩

/-- A stage that makes one call whose own error ends the run. -/
theorem follows_callOrFail {phase : Phase} {task : σ → Task σ (Except Error Unit)}
    {stage : Stage σ ε κ Unit}
    (hanswer : ∀ state,
      s.answer a settings call state =
        answerIn settings (settings.limit state) phase .ofResult (task state))
    (h : s.Follows a settings c rest stage) :
    s.Follows a settings c (call :: rest)
      (Stage.callOrFail settings phase call task >>= fun _ => stage) := by
  rw [Stage.callOrFail, bind_assoc]
  refine follows_call hanswer fun v => ?_
  cases v with
  | ok => exact .inl ⟨rfl, h⟩
  | error error => exact .inr ⟨rfl, fun p => rfl⟩

/-! ### The stages -/

theorem of_drop_eq_cons {l rest : List α} {x : α} {index : Nat} (h : l.drop index = x :: rest) :
    l[index]? = some x ∧ l.drop (index + 1) = rest := by
  constructor
  · rw [← List.head?_drop, h, List.head?_cons]
  · rw [← List.tail_drop, h, List.tail_cons]

/-- Here and for the checks, the actions left are those from `index` on, which is the index that
their calls carry. -/
theorem follows_arrangeAll {index : Nat} {actions : List (ς → ς)} {stage : Stage σ ε κ Unit}
    (hactions : s.arrangements.drop index = actions) (h : s.Follows a settings c rest stage) :
    s.Follows a settings c ((List.range' index actions.length).map .arrange ++ rest)
      (arrangeAll a index actions >>= fun _ => stage) := by
  induction actions generalizing index with
  | nil => exact h
  | cons action actions ih =>
    obtain ⟨haction, hnext⟩ := of_drop_eq_cons hactions
    rw [arrangeAll, bind_assoc, List.length_cons, List.range'_succ]
    refine follows_cons fun p => .inl ⟨(), ?_, goesOn_arrange index p.state, ih hnext⟩
    rw [Stage.run_use]
    simp only [answer, haction]

theorem follows_checkAll {index : Nat} {checks : List (Check ς)}
    (hchecks : s.checks.drop index = checks) :
    s.Follows a settings c ((List.range' index checks.length).map .check)
      (checkAll a settings index checks) := by
  induction checks generalizing index with
  | nil => exact follows_nil
  | cons check checks ih =>
    obtain ⟨hcheck, hnext⟩ := of_drop_eq_cons hchecks
    rw [checkAll, List.length_cons, List.range'_succ, List.map_cons]
    refine follows_call (g := .ofVerdict) (fun state => ?_) fun verdict => ?_
    · simp only [answer, hcheck]
    · cases verdict with
      | passed => exact .inl ⟨rfl, ih hnext⟩
      | failed message => exact .inr ⟨rfl, fun p => rfl⟩

/-- Reading the published events and looking at them. -/
theorem follows_readPublished {f : Streams ε → Stage σ ε κ Unit}
    (h : ∀ streams,
      (s.judge a settings c (.published streams) = none ∧ s.Follows a settings c rest (f streams)) ∨
      ∃ error, s.judge a settings c (.published streams) = some error ∧
        ∀ p, (f streams).run p = (.error error, p)) :
    s.Follows a settings c (.published :: rest) (readPublished a settings >>= f) := by
  rw [readPublished, Stage.callOrFail, bind_assoc]
  refine follows_call (g := .ofPublished) (fun _ => rfl) fun result => ?_
  cases result with
  | error error => exact .inr ⟨rfl, fun p => rfl⟩
  | ok streams =>
    rcases h streams with ⟨hjudge, hrest⟩ | ⟨error, hjudge, hend⟩
    · exact .inl ⟨Option.isNone_iff_eq_none.2 hjudge, hrest⟩
    · refine .inr ⟨?_, fun p => (hend p).trans ?_⟩
      · simp only [Answer.ofPublished, goesOn, hjudge, Option.isNone_some]
      · rw [Answer.ofPublished, verdict_cons_of_some hjudge]

/-- Without the error of a command, the run looks at the published events and then at the services.
-/
theorem follows_evaluate_none :
    s.Follows a settings c
      (.published :: if s.faults.isEmpty then (List.range s.checks.length).map .check else [])
      (evaluate a settings c s none) := by
  rw [evaluate]
  cases hfaults : s.faults.isEmpty with
  | true =>
    simp only [if_true]
    refine follows_readPublished fun streams => ?_
    cases hstreams : checkStreams settings c streams s.chains with
    | ok =>
      refine .inl ⟨by rw [judge, hfaults, hstreams]; rfl, ?_⟩
      rw [List.range_eq_range']
      exact follows_checkAll rfl
    | error error => exact .inr ⟨error, by rw [judge, hfaults, hstreams]; rfl, fun p => rfl⟩
  | false =>
    simp only [Bool.false_eq_true, if_false]
    refine follows_readPublished fun streams => .inr ?_
    cases hmissing : missingFault c streams with
    | ok error => exact ⟨error, by rw [judge, hfaults, hmissing]; rfl, fun p => rfl⟩
    | error error => exact ⟨error, by rw [judge, hfaults, hmissing]; rfl, fun p => rfl⟩

/-- With the error of a command, the run makes no call any more. -/
theorem run_evaluate_some (fault : χ) (p : Progress σ ε κ) :
    (evaluate a settings c s (some fault)).run p =
      (s.verdict a settings c [(call, .fault fault)], p) := by
  rw [evaluate, verdict, List.findSome?_cons, judge]
  cases s.faults.isEmpty with
  | true => rfl
  | false =>
    simp only [Bool.false_eq_true, if_false, Stage.run_liftExcept]
    cases s.faults.forM fun expected => expected.check a.faults fault <;> rfl

theorem follows_dispatchAll {commands : List κ}
    (h : s.Follows a settings c tail (evaluate a settings c s none)) :
    s.Follows a settings c (commands.map .dispatch ++ tail)
      (dispatchAll a settings commands >>= evaluate a settings c s) := by
  induction commands with
  | nil => exact h
  | cons command commands ih =>
    rw [dispatchAll, bind_assoc]
    refine follows_call (g := .ofDispatch) (fun _ => rfl) fun result => ?_
    cases result with
    | ok => exact .inl ⟨rfl, ih⟩
    | error fault => exact .inr ⟨rfl, fun p => run_evaluate_some fault p⟩

/-- The part of a run between the preparation of the system and its end makes the calls that the
scenario asks for. -/
theorem follows_body (a : Adapter σ ε κ χ ς) (settings : Settings) (c : Canonicalizer ε)
    (s : Scenario ε κ χ ς) : s.Follows a settings c s.plan (body a settings c s) := by
  rw [plan, body, List.range_eq_range']
  refine follows_arrangeAll rfl (follows_callOrFail (fun _ => rfl) ?_)
  exact follows_dispatchAll follows_evaluate_none

/-! ### The run -/

section Run

variable (a settings c s)

/-- A call whose own error ends the run, before or after the calls of a plan. -/
theorem run_callOrFail (call : Interaction ε κ) {phase : Phase}
    {task : σ → Task σ (Except Error Unit)}
    (hanswer : ∀ state,
      s.answer a settings call state =
        answerIn settings (settings.limit state) phase .ofResult (task state))
    (p : Progress σ ε κ) :
    (Stage.callOrFail settings phase call task).run p =
      (s.verdict a settings c [(call, (s.answer a settings call p.state).2)],
        ⟨(s.answer a settings call p.state).1, p.interactions ++ [call]⟩) := by
  have h := follows_callOrFail hanswer (follows_nil (a := a) (c := c) (s := s)) p
  rw [bind_pure_unit, follow_singleton] at h
  exact h

omit [Timer σ] in
theorem exists_answerIn_ofResult (limit : Duration) (phase : Phase)
    (task : Task σ (Except Error Unit)) :
    ∃ result,
      (answerIn settings limit phase .ofResult task).2 = (.ofResult result : Answer ε χ) := by
  rw [answerIn]
  split
  · exact ⟨_, rfl⟩
  · exact ⟨.error _, rfl⟩

theorem exists_answer_ofResult (call : Interaction ε κ) (state : σ) {phase : Phase}
    {task : Task σ (Except Error Unit)}
    (hanswer : s.answer a settings call state =
      answerIn settings (settings.limit state) phase .ofResult task) :
    ∃ next result, s.answer a settings call state = (next, .ofResult result) := by
  obtain ⟨result, hresult⟩ :=
    exists_answerIn_ofResult (ε := ε) (χ := χ) settings (settings.limit state) phase task
  exact ⟨_, result, hanswer.trans (Prod.ext rfl hresult)⟩

variable {a settings c s} {state next mid final : σ} {last : Answer ε χ}
  {calls : List (Interaction ε κ × Answer ε χ)}

/-- A run that fails to prepare the system is over. -/
theorem run_of_failed (hs : s.error = none) {error : Error}
    (hbefore : s.answer a settings .beforeTest state = (next, .failed error)) :
    s.run a settings c state = ⟨.error error, next, [.beforeTest]⟩ := by
  have hprepare := run_callOrFail a settings c s .beforeTest (fun _ => rfl) { state }
  rw [hbefore] at hprepare
  simp only [run, hs, hprepare]
  rfl

/-- A prepared system is given the calls that the scenario asks for, and then it is ended. -/
theorem run_of_prepared (hs : s.error = none)
    (hbefore : s.answer a settings .beforeTest state = (next, .done))
    (hfollow : s.follow a settings c s.plan next = (calls, mid))
    (hafter : s.answer a settings .afterTest mid = (final, last)) :
    s.run a settings c state =
      { result := s.verdict a settings c (calls ++ [(.afterTest, last)])
        state := final
        interactions := .beforeTest :: calls.map Prod.fst ++ [.afterTest] } := by
  have hprepare := run_callOrFail a settings c s .beforeTest (fun _ => rfl) { state }
  have hbody := follows_body a settings c s ⟨next, [.beforeTest]⟩
  have hend := run_callOrFail a settings c s .afterTest (fun _ => rfl)
    ⟨mid, .beforeTest :: calls.map Prod.fst⟩
  rw [hbefore] at hprepare
  rw [hfollow] at hbody
  rw [hafter] at hend
  change _ = (Except.ok (), (⟨next, [.beforeTest]⟩ : Progress σ ε κ)) at hprepare
  change _ = (_, (⟨mid, .beforeTest :: calls.map Prod.fst⟩ : Progress σ ε κ)) at hbody
  simp only [run, hs, hprepare, hbody, hend, verdict_append]

omit [Timer σ] in
theorem verdict_append_ofResult (calls : List (Interaction ε κ × Answer ε χ))
    (call : Interaction ε κ) (ending : Except Error Unit) :
    s.verdict a settings c (calls ++ [(call, .ofResult ending)]) =
      match calls.findSome? fun call => s.judge a settings c call.2 with
      | some error => .error error
      | none => ending := by
  rw [verdict_append, verdict]
  cases calls.findSome? fun call => s.judge a settings c call.2 with
  | some error => rfl
  | none => cases ending <;> rfl

/-- A prepared system is given the calls of the stages, and the last call ends it. -/
theorem exists_course_of_prepared (hs : s.error = none)
    (hbefore : s.answer a settings .beforeTest state = (next, .done)) :
    ∃ calls commands looked checks ending,
      s.Course settings c calls commands looked checks ∧
      s.Answered a settings state
        ((.beforeTest, .done) :: calls ++ [(.afterTest, .ofResult ending)])
        (s.run a settings c state).state ∧
      (s.run a settings c state).interactions =
        .beforeTest :: s.stages commands looked checks ++ [.afterTest] ∧
      (s.run a settings c state).result =
        match calls.findSome? fun call => s.judge a settings c call.2 with
        | some error => .error error
        | none => ending := by
  obtain ⟨commands, looked, checks, course⟩ := exists_course a settings c s next
  have hanswered := answered_follow a settings c s s.plan next
  rcases hfollow : s.follow a settings c s.plan next with ⟨calls, mid⟩
  rw [hfollow] at course hanswered
  obtain ⟨final, ending, hafter⟩ := exists_answer_ofResult a settings s .afterTest mid rfl
  rw [run_of_prepared hs hbefore hfollow hafter]
  refine ⟨calls, commands, looked, checks, ending, course,
    .cons hbefore (hanswered.append (.cons hafter .nil)), ?_, verdict_append_ofResult _ _ _⟩
  rw [course.shape]

variable (a settings c s)

/-- Where building the scenario failed, the run makes no call and ends with that error. Where the
system cannot be prepared, the run makes no other call and ends with that error. Otherwise the calls
follow the stages of the scenario, each stage only after all calls before have succeeded, and the
system is ended by the last call; the result is the first error that an answer between means, or
else the one of the last call. -/
theorem run_lifecycle (state : σ) :
    ((s.run a settings c state).interactions = [] ↔ s.error ≠ none) ∧
    (∀ error, s.error = some error → (s.run a settings c state).result = .error error) ∧
    ((s.run a settings c state).interactions = [.beforeTest] ↔
      s.error = none ∧ ∃ error, (s.answer a settings .beforeTest state).2 = .failed error) ∧
    (∀ error, s.error = none → (s.answer a settings .beforeTest state).2 = .failed error →
      (s.run a settings c state).result = .error error) ∧
    (s.error = none → (∀ error, (s.answer a settings .beforeTest state).2 ≠ .failed error) →
      ∃ calls commands looked checks ending,
        s.Course settings c calls commands looked checks ∧
        s.Answered a settings state
          ((.beforeTest, .done) :: calls ++ [(.afterTest, .ofResult ending)])
          (s.run a settings c state).state ∧
        (s.run a settings c state).interactions =
          .beforeTest :: s.stages commands looked checks ++ [.afterTest] ∧
        (s.run a settings c state).result =
          match calls.findSome? fun call => s.judge a settings c call.2 with
          | some error => .error error
          | none => ending) := by
  cases hs : s.error with
  | some error =>
    have hrun : s.run a settings c state = ⟨.error error, state, []⟩ := by simp only [run, hs]
    simp [hrun]
  | none =>
    obtain ⟨prepared, hprepared⟩ :=
      exists_answerIn_ofResult (ε := ε) (χ := χ) settings (settings.limit state) .beforeTest
        (a.beforeTest state)
    have hbefore : s.answer a settings .beforeTest state =
        ((s.answer a settings .beforeTest state).1, .ofResult prepared) := by
      rw [← hprepared]
      rfl
    cases prepared with
    | error error =>
      rw [run_of_failed hs hbefore, hbefore]
      simp [Answer.ofResult]
    | ok =>
      have hcourse := exists_course_of_prepared (c := c) hs hbefore
      obtain ⟨_, _, _, _, _, _, _, hinteractions, _⟩ := id hcourse
      refine ⟨?_, nofun, ?_, ?_, fun _ _ => hcourse⟩
      · simp [hinteractions]
      · rw [hinteractions, hbefore]
        simp [stages, Answer.ofResult]
      · rw [hbefore]
        simp [Answer.ofResult]

end Run

end GivenWhenThen.Scenario
