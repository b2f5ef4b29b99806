import GivenWhenThen.Proofs.Fault.Expectation
import GivenWhenThen.Proofs.Run.Record
import GivenWhenThen.Proofs.Run.Report
import GivenWhenThen.Proofs.Scenario.Construction

/-! Where the error of a run comes from. By `origin_of_result`, where all chains can be executed, it
is foreign, which means that the adapter returned it or the canonicalizer has it for an event, or it
stands for the end of the time of a call, or it says that an expectation does not hold. For a
scenario that is built without an error, `construction_errors` leaves only foreign ones of the
construction errors. -/

namespace GivenWhenThen

variable {σ ε κ χ ς : Type}

/-- Called in the state, the adapter returns the error as its own, and in time. -/
def Adapter.Returns [Timer σ] (a : Adapter σ ε κ χ ς) (settings : Settings) (error : Error) :
    Interaction ε κ → σ → Prop
  | .beforeTest, state =>
    ((a.beforeTest state).within (settings.limit state)).2 = some (.error error)
  | .seed given, state =>
    ((a.seed given state).within (settings.limit state)).2 = some (.error error)
  | .published, state =>
    ((a.published state).within (settings.limit state)).2 = some (.error error)
  | .afterTest, state =>
    ((a.afterTest state).within (settings.limit state)).2 = some (.error error)
  | .arrange _, _ | .dispatch _, _ | .check _, _ => False

namespace Scenario

variable (a : Adapter σ ε κ χ ς) (settings : Settings) (c : Canonicalizer ε) (s : Scenario ε κ χ ς)

/-- A run from the state makes the call when the system is in the state `mid`. -/
def Makes [Timer σ] (state : σ) (call : Interaction ε κ) (mid : σ) : Prop :=
  ∃ before behind, (s.run a settings c state).interactions = before ++ call :: behind ∧
    s.after a settings before state = mid

/-- The error is not one of the runner: a call of the run returned it, or the canonicalizer has it
for the first event without a canonical form, of those that the execution of a chain asks for or of
all that were published. -/
inductive Foreign [Timer σ] (state : σ) (error : Error) : Prop
  | returned {call : Interaction ε κ} {mid : σ} (makes : s.Makes a settings c state call mid)
      (returns : a.Returns settings error call mid)
  | executed {call : Interaction ε κ} {mid : σ} {streams : Streams ε}
      {entry : StreamId × Chain ε} (faults : s.faults = [])
      (makes : s.Makes a settings c state call mid)
      (answer : (s.answer a settings call mid).2 = .published streams) (chain : entry ∈ s.chains)
      (first : c.FirstError (entry.2.requests c (streams.events entry.1)) error)
  | listed {call : Interaction ε κ} {mid : σ} {streams : Streams ε} (faults : s.faults ≠ [])
      (makes : s.Makes a settings c state call mid)
      (answer : (s.answer a settings call mid).2 = .published streams)
      (first : c.FirstError streams.allEvents error)

/-- The error stands for a call of the run that was not done in time. -/
def Expires [Timer σ] (state : σ) (error : Error) : Prop :=
  ∃ call phase mid, s.Makes a settings c state call mid ∧ call.phase? = some phase ∧
    ((s.task a call mid).within (settings.limit mid)).2 = none ∧
    error = .timeout phase.text settings.timeout

variable {a settings c s} {state mid : σ} {call : Interaction ε κ} {error : Error}
  {streams : Streams ε}

/-! ### Errors of what was expected -/

theorem isConstruction_of_isAssertion (h : error.isAssertion = true) :
    error.isConstruction = false := by
  cases error with
  | assertionFailed text => rfl
  | _ => cases h

/-- Looking at the published events fails by an assertion, or by an event without canonical form. -/
theorem firstError_of_checkStreams {chains : List (StreamId × Chain ε)}
    (hchains : ∀ entry ∈ chains, entry.2.Executable)
    (h : checkStreams settings c streams chains = .error error) :
    error.isAssertion = true ∨ ∃ entry ∈ chains,
      c.FirstError (entry.2.requests c (streams.events entry.1)) error := by
  rw [checkStreams, bind_eq_error_iff] at h
  rcases h with h | ⟨outcomes, -, h⟩
  · obtain ⟨before, entry, behind, rfl, -, hexecute⟩ := mapM_eq_error_iff.1 h
    have hmem : entry ∈ before ++ entry :: behind := by simp
    have hentry : entry.2.Executable := hchains entry hmem
    rcases Chain.check_or_firstError_of_execute hentry.wellFormed hexecute with hcheck | hfirst
    · rw [hentry.check] at hcheck
      cases hcheck
    · exact .inr ⟨entry, hmem, hfirst⟩
  · split at h
    · cases h
    · cases h
      exact .inl rfl

theorem isAssertion_of_missingFault (h : missingFault c streams = .ok error) :
    error.isAssertion = true := by
  obtain ⟨forms, -, ⟨⟩⟩ := bind_eq_ok_iff.1 h
  rfl

/-! ### Errors of calls -/

variable [Timer σ]

theorem Record.makes {calls : List (Interaction ε κ × Answer ε χ)}
    (h : s.Record a settings c state (s.run a settings c state) calls)
    {call : Interaction ε κ × Answer ε χ} (hmem : call ∈ calls) :
    ∃ mid, s.Makes a settings c state call.1 mid ∧
      (s.answer a settings call.1 mid).2 = call.2 := by
  obtain ⟨before, behind, rfl⟩ := List.append_of_mem hmem
  refine ⟨_, ⟨before.map Prod.fst, behind.map Prod.fst, ?_, rfl⟩, h.answered.answer_eq⟩
  rw [h.interactions, List.map_append, List.map_cons]

theorem within_map_eq_some {σ α β : Type} {f : α → β} {task : Task σ α} {limit : Duration}
    {next : σ} {y : β} (h : (task.map f).within limit = (next, some y)) :
    ∃ x, (task.within limit).2 = some x ∧ f x = y := by
  rw [Task.within_map] at h
  exact Option.map_eq_some_iff.1 (congrArg Prod.snd h)

/-- An error that the task of a call comes to is the adapter's own, or a check has failed. -/
theorem returns_of_task {next : σ}
    (h : (s.task a call mid).within (settings.limit mid) =
      (next, some (.failed error))) :
    a.Returns settings error call mid ∨ error.isAssertion = true := by
  cases call with
  | beforeTest | seed | afterTest =>
    obtain ⟨_ | _, hresult, ⟨⟩⟩ := within_map_eq_some h
    exact .inl hresult
  | published =>
    obtain ⟨_ | _, hresult, ⟨⟩⟩ := within_map_eq_some h
    exact .inl hresult
  | dispatch command =>
    obtain ⟨_ | _, -, ⟨⟩⟩ := within_map_eq_some h
  | arrange index =>
    rw [task] at h
    split at h <;> cases h
  | check index =>
    rw [task] at h
    split at h
    · obtain ⟨_ | _, -, ⟨⟩⟩ := within_map_eq_some h
      exact .inr rfl
    · cases h

theorem origin_of_judge (hchains : ∀ entry ∈ s.chains, entry.2.Executable)
    (hmakes : s.Makes a settings c state call mid)
    (h : s.judge a settings c (s.answer a settings call mid).2 = some error) :
    s.Foreign a settings c state error ∨ s.Expires a settings c state error ∨
      error.isAssertion = true := by
  cases hanswer : (s.answer a settings call mid).2 with
  | done =>
    rw [hanswer] at h
    cases h
  | failed e =>
    rw [hanswer] at h
    cases h
    rcases answersIn_answer a settings s call mid with
      ⟨next, answer, htask, heq⟩ | ⟨phase, next, hphase, htask, heq⟩
    · obtain rfl : answer = .failed error := by rw [← hanswer, heq]
      rcases returns_of_task htask with hreturns | hassertion
      · exact .inl (.returned hmakes hreturns)
      · exact .inr (.inr hassertion)
    · rw [heq] at hanswer
      cases hanswer
      exact .inr (.inl ⟨call, phase, mid, hmakes, hphase, congrArg Prod.snd htask, rfl⟩)
  | fault fault =>
    rw [hanswer, judge] at h
    split at h
    · cases h
      exact .inr (.inr rfl)
    · obtain ⟨_, expectation, _, -, -, hcheck⟩ := forM_eq_error_iff.1 (failure?_eq_some_iff.1 h)
      exact .inr (.inr (FaultExpectation.isAssertion_of_check hcheck))
  | published streams =>
    rw [hanswer, judge] at h
    split_ifs at h with hfaults
    · rcases firstError_of_checkStreams hchains (failure?_eq_some_iff.1 h) with
        hassertion | ⟨entry, hentry, hfirst⟩
      · exact .inr (.inr hassertion)
      · exact .inl (.executed (List.isEmpty_iff.1 hfaults) hmakes hanswer hentry hfirst)
    · rw [List.isEmpty_iff] at hfaults
      split at h
      · next hmissing =>
        cases h
        exact .inr (.inr (isAssertion_of_missingFault hmissing))
      · next hmissing =>
        cases h
        exact .inl (.listed hfaults hmakes hanswer (missingFault_eq_error_iff.1 hmissing))

/-! ### Errors of runs -/

theorem origin_of_result (hs : s.error = none) (hchains : ∀ entry ∈ s.chains, entry.2.Executable)
    (h : (s.run a settings c state).result = .error error) :
    s.Foreign a settings c state error ∨ s.Expires a settings c state error ∨
      error.isAssertion = true := by
  obtain ⟨calls, hrecord⟩ := exists_record a settings c hs state
  -- The result is the error that one of the answers means.
  rw [hrecord.result, verdict] at h
  split at h
  · next hfound =>
    cases h
    obtain ⟨call, hmem, hjudge⟩ := List.exists_of_findSome?_eq_some hfound
    obtain ⟨mid, hmakes, hanswer⟩ := hrecord.makes hmem
    rw [← hanswer] at hjudge
    exact origin_of_judge hchains hmakes hjudge
  · cases h

/-- Whatever patterns compile, a scenario that clauses build holds the first error of its clauses.
If there is none, each of its chains can be executed, and a run ends with a construction error only
where the adapter or the canonicalizer has it. If there is one, it is a construction error, and it
is all that a run comes to: no call is made, and the system stays as it is. -/
theorem construction_errors [PatternEngine] (home : Option StreamId)
    (clauses : List (Clause ε κ χ ς)) (a : Adapter σ ε κ χ ς) (settings : Settings)
    (c : Canonicalizer ε) (state : σ) :
    (build home clauses).error = (failures home clauses).head? ∧
    ((build home clauses).error = none →
      (∀ entry ∈ (build home clauses).chains, entry.2.Executable) ∧
      ∀ error, error.isConstruction = true →
        ((build home clauses).run a settings c state).result = .error error →
          (build home clauses).Foreign a settings c state error) ∧
    ∀ error, (build home clauses).error = some error →
      error.isConstruction = true ∧
      (build home clauses).run a settings c state = ⟨.error error, state, []⟩ := by
  refine ⟨(describes_build home clauses).error, fun hs => ?_, fun error herror => ?_⟩
  · have hchains := executable_of_build hs
    refine ⟨hchains, fun error hconstruction hresult => ?_⟩
    rcases origin_of_result hs hchains hresult with
      hforeign | ⟨_, _, _, -, -, -, rfl⟩ | hassertion
    · exact hforeign
    · cases hconstruction
    · rw [isConstruction_of_isAssertion hassertion] at hconstruction
      cases hconstruction
  · exact ⟨isConstruction_of_build herror, by simp only [run, herror]⟩

end Scenario

end GivenWhenThen
