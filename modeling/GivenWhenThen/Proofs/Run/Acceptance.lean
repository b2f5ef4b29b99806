import GivenWhenThen.Bank.Basic
import GivenWhenThen.Proofs.Run.Lifecycle
import GivenWhenThen.Proofs.Run.Report

/-! When a run of a scenario that expects no error succeeds, and what it says if a chain does not
accept. Such a run succeeds just if each of its calls does, by `result_eq_ok_iff`, and the calls up
to the published events succeed by being done. `run_acceptance` puts this together with the report
on the chains. -/

namespace GivenWhenThen.Scenario

variable {σ ε κ χ ς : Type}

variable (a : Adapter σ ε κ χ ς) (settings : Settings) (c : Canonicalizer ε) (s : Scenario ε κ χ ς)

/-- The preparation of the system, and the calls up to the last command. -/
def acts : List (Interaction ε κ) := .beforeTest :: s.stages s.commands.length false 0

/-- The calls are done one after the other. -/
def Does [Timer σ] (calls : List (Interaction ε κ)) (state final : σ) : Prop :=
  s.Answered a settings state (calls.map (·, .done)) final

/-- The system is prepared, does all that the scenario arranges and commands, and then publishes the
events of the streams. -/
def Publishes [Timer σ] (state : σ) (streams : Streams ε) (after : σ) : Prop :=
  ∃ acted, s.Does a settings s.acts state acted ∧
    s.answer a settings .published acted = (after, .published streams)

/-- All checks pass, and the system is ended without an error. -/
def Closes [Timer σ] (state : σ) : Prop :=
  ∃ checked final, s.Does a settings ((List.range s.checks.length).map .check) state checked ∧
    s.answer a settings .afterTest checked = (final, .done)

/-- The run makes the calls, which leave the system in the state `mid`, and then ends it. An error
of the outcome comes before one of the end. -/
def EndsWith [Timer σ] (state : σ) (calls : List (Interaction ε κ)) (mid : σ)
    (outcome : Except Error Unit) : Prop :=
  ∃ final ending, s.answer a settings .afterTest mid = (final, .ofResult ending) ∧
    s.run a settings c state = ⟨outcome.bind fun () => ending, final, calls ++ [.afterTest]⟩

/-- Each call of the plan succeeds, and together they lead to the final state. -/
def Passes [Timer σ] : List (Interaction ε κ) → σ → σ → Prop
  | [], state, final => state = final
  | call :: rest, state, final =>
    s.Succeeds settings c (s.answer a settings call state).2 ∧
      Passes rest (s.answer a settings call state).1 final

variable {a settings c s} {call : Interaction ε κ} {calls rest plan : List (Interaction ε κ)}
  {state mid final after : σ} {streams : Streams ε}

/-! ### Calls that succeed -/

theorem judge_eq_none_iff (hfaults : s.faults = []) {answer : Answer ε χ} :
    s.judge a settings c answer = none ↔ s.Succeeds settings c answer := by
  cases answer with
  | done => simp [judge, Succeeds]
  | published streams => simp [judge, Succeeds, hfaults, failure?_eq_none_iff]
  | fault fault => simp [judge, Succeeds, hfaults]
  | failed error => simp [judge, Succeeds]

theorem answerIn_ne {α : Type} {limit : Duration} {phase : Phase} {f : α → Answer ε χ}
    {task : Task σ α} {answer : Answer ε χ} (hresult : ∀ result, f result ≠ answer)
    (hfailed : ∀ error, .failed error ≠ answer) :
    (answerIn settings limit phase f task).2 ≠ answer := by
  rw [answerIn]
  split
  · exact hresult _
  · exact hfailed _

variable [Timer σ]

/-- Only the call that asks for the published events is answered by them. -/
theorem answer_ne_published (hcall : call ≠ .published) :
    (s.answer a settings call state).2 ≠ .published streams := by
  have hofResult : ∀ result, (Answer.ofResult result : Answer ε χ) ≠ .published streams := by
    rintro (_ | _) ⟨⟩
  have hdone : (Answer.done : Answer ε χ) ≠ .published streams := by rintro ⟨⟩
  have hfailed : ∀ error, (Answer.failed error : Answer ε χ) ≠ .published streams := by
    rintro _ ⟨⟩
  cases call with
  | published => exact absurd rfl hcall
  | beforeTest => exact answerIn_ne hofResult hfailed
  | seed given => exact answerIn_ne hofResult hfailed
  | afterTest => exact answerIn_ne hofResult hfailed
  | dispatch command => exact answerIn_ne (by rintro (_ | _) ⟨⟩) hfailed
  | arrange index =>
    rw [answer]
    split <;> exact hdone
  | check index =>
    rw [answer]
    split
    · exact answerIn_ne (by rintro (_ | _) ⟨⟩) hfailed
    · exact hdone

theorem succeeds_answer_iff (hcall : call ≠ .published) :
    s.Succeeds settings c (s.answer a settings call state).2 ↔
      (s.answer a settings call state).2 = .done := by
  constructor
  · rintro (hdone | ⟨streams, hpublished, -⟩)
    · exact hdone
    · exact absurd hpublished (answer_ne_published hcall)
  · exact .inl

theorem passes_append_iff :
    s.Passes a settings c (calls ++ rest) state final ↔
      ∃ mid, s.Passes a settings c calls state mid ∧ s.Passes a settings c rest mid final := by
  induction calls generalizing state with
  | nil => simp [Passes]
  | cons call calls ih => simp only [List.cons_append, Passes, ih, exists_and_left, and_assoc]

theorem does_nil_iff : s.Does a settings [] state final ↔ state = final := by
  constructor
  · rintro ⟨⟩
    rfl
  · rintro rfl
    exact .nil

theorem does_cons_iff :
    s.Does a settings (call :: calls) state final ↔
      ∃ next, s.answer a settings call state = (next, .done) ∧
        s.Does a settings calls next final := by
  constructor
  · rintro (_ | ⟨hanswer, hrest⟩)
    exact ⟨_, hanswer, hrest⟩
  · rintro ⟨next, hanswer, hrest⟩
    exact .cons hanswer hrest

theorem passes_iff_does (hcalls : .published ∉ calls) :
    s.Passes a settings c calls state final ↔ s.Does a settings calls state final := by
  induction calls generalizing state with
  | nil => exact does_nil_iff.symm
  | cons call calls ih =>
    have hcall : call ≠ .published := fun h => hcalls (h ▸ List.mem_cons_self)
    rw [Passes, succeeds_answer_iff hcall, ih fun h => hcalls (List.mem_cons_of_mem _ h),
      does_cons_iff]
    constructor
    · rintro ⟨hdone, hrest⟩
      exact ⟨_, Prod.ext rfl hdone, hrest⟩
    · rintro ⟨next, hanswer, hrest⟩
      rw [hanswer]
      exact ⟨rfl, hrest⟩

/-- The call that asks for the published events succeeds if all chains accept them. -/
theorem passes_published_iff (hfaults : s.faults = []) :
    s.Passes a settings c (.published :: rest) state final ↔
      ∃ streams after, s.answer a settings .published state = (after, .published streams) ∧
        (∀ entry ∈ s.chains, entry.2.Accepts c entry.1 (streams.events entry.1)) ∧
        s.Passes a settings c rest after final := by
  rw [Passes]
  constructor
  · rintro ⟨hdone | ⟨streams, hpublished, -, hstreams⟩, hrest⟩
    · exact absurd hdone (answerIn_ne (by rintro (_ | _) ⟨⟩) (by rintro _ ⟨⟩))
    · exact ⟨streams, _, Prod.ext rfl hpublished, checkStreams_eq_ok_iff.1 hstreams, hrest⟩
  · rintro ⟨streams, after, hanswer, hstreams, hrest⟩
    rw [hanswer]
    exact ⟨.inr ⟨streams, rfl, hfaults, checkStreams_eq_ok_iff.2 hstreams⟩, hrest⟩

/-- A plan without a failure is followed to its end. -/
theorem passes_iff (hfaults : s.faults = []) :
    s.Passes a settings c plan state final ↔
      s.verdict a settings c (s.follow a settings c plan state).1 = .ok () ∧
        (s.follow a settings c plan state).2 = final := by
  induction plan generalizing state with
  | nil => simp [Passes, follow, verdict]
  | cons call rest ih =>
    rw [Passes, ih, ← goesOn_iff (a := a)]
    cases h : s.goesOn a settings c (s.answer a settings call state).2 with
    | true =>
      rw [follow_of_goesOn h, verdict_cons (judge_eq_none_of_goesOn h)]
      simp
    | false =>
      have hjudge : s.judge a settings c (s.answer a settings call state).2 ≠ none := by
        rw [ne_eq, judge_eq_none_iff hfaults, ← goesOn_iff (a := a), h]
        exact Bool.false_ne_true
      obtain ⟨error, herror⟩ := Option.ne_none_iff_exists'.1 hjudge
      rw [follow_of_not_goesOn h, verdict_cons_of_some herror]
      simp

/-! ### Runs that succeed -/

/-- A run succeeds just if each of its calls does. -/
theorem result_eq_ok_iff (hs : s.error = none) (hfaults : s.faults = []) :
    (s.run a settings c state).result = .ok () ↔
      ∃ final, s.Passes a settings c (.beforeTest :: (s.plan ++ [.afterTest])) state final := by
  obtain ⟨next, prepared, hbefore⟩ := exists_answer_ofResult a settings s .beforeTest state rfl
  simp only [Passes, hbefore]
  cases prepared with
  | error error =>
    rw [run_of_failed hs hbefore]
    simp [Answer.ofResult, Succeeds]
  | ok =>
    rcases hfollow : s.follow a settings c s.plan next with ⟨calls, mid⟩
    rcases hafter : s.answer a settings .afterTest mid with ⟨final, last⟩
    have hend : s.follow a settings c [.afterTest] mid = ([(.afterTest, last)], final) := by
      rw [follow_singleton, hafter]
    rw [run_of_prepared hs hbefore hfollow hafter, verdict_append_eq_ok_iff]
    constructor
    · rintro ⟨hcalls, hlast⟩
      refine ⟨final, .inl rfl, passes_append_iff.2 ⟨mid, ?_, ?_⟩⟩
      · rw [passes_iff hfaults, hfollow]
        exact ⟨hcalls, rfl⟩
      · rw [passes_iff hfaults, hend]
        exact ⟨hlast, rfl⟩
    · rintro ⟨_, -, hpasses⟩
      obtain ⟨_, hplan, hlast⟩ := passes_append_iff.1 hpasses
      rw [passes_iff hfaults, hfollow] at hplan
      obtain ⟨hcalls, rfl⟩ := hplan
      rw [passes_iff hfaults, hend] at hlast
      exact ⟨hcalls, hlast.1⟩

theorem plan_eq_append :
    s.plan = s.stages s.commands.length false 0 ++
      .published :: if s.faults.isEmpty then (List.range s.checks.length).map .check else [] := by
  simp [plan, stages]

theorem plan_eq (hfaults : s.faults = []) :
    s.plan = s.stages s.commands.length false 0 ++
      .published :: (List.range s.checks.length).map .check := by
  simp [plan_eq_append, hfaults]

theorem stages_looked :
    s.stages s.commands.length true 0 = s.stages s.commands.length false 0 ++ [.published] := by
  simp [stages]

theorem published_not_mem_acts : .published ∉ s.acts := by
  simp [acts, stages]

theorem closes_iff :
    s.Closes a settings state ↔
      ∃ final, s.Passes a settings c ((List.range s.checks.length).map .check ++ [.afterTest])
        state final := by
  have hchecks : .published ∉
      (List.range s.checks.length).map (.check : Nat → Interaction ε κ) := by simp
  have hafter : .published ∉ [(.afterTest : Interaction ε κ)] := by simp
  simp only [Closes, passes_append_iff, passes_iff_does hchecks, passes_iff_does hafter,
    does_cons_iff, does_nil_iff]
  constructor
  · rintro ⟨checked, final, hdoes, hanswer⟩
    exact ⟨final, checked, hdoes, final, hanswer, rfl⟩
  · rintro ⟨_, checked, hdoes, final, hanswer, -⟩
    exact ⟨checked, final, hdoes, hanswer⟩

/-! ### Runs with a report -/

theorem follow_of_does (h : s.Does a settings calls state mid) :
    s.follow a settings c (calls ++ rest) state =
      (calls.map (·, .done) ++ (s.follow a settings c rest mid).1,
        (s.follow a settings c rest mid).2) := by
  induction calls generalizing state with
  | nil =>
    obtain rfl := does_nil_iff.1 h
    rfl
  | cons call calls ih =>
    obtain ⟨next, hanswer, hrest⟩ := does_cons_iff.1 h
    have hgo : s.goesOn a settings c (s.answer a settings call state).2 = true := by
      rw [hanswer]
      rfl
    rw [List.cons_append, follow_of_goesOn hgo, hanswer, ih hrest]
    rfl

omit [Timer σ] in
theorem verdict_done (calls : List (Interaction ε κ)) :
    s.verdict a settings c (calls.map (·, .done)) = .ok () := by
  induction calls with
  | nil => rfl
  | cons call calls ih => exact (verdict_cons rfl).trans ih

/-- A call whose answer does not let the run go on is the last one but the end. -/
theorem run_of_stopped (hs : s.error = none) {answer : Answer ε χ}
    (hplan : s.plan = calls ++ call :: rest)
    (hdoes : s.Does a settings (.beforeTest :: calls) state mid)
    (hanswer : s.answer a settings call mid = (after, answer))
    (hstop : s.goesOn a settings c answer = false) :
    s.EndsWith a settings c state (.beforeTest :: calls ++ [call]) after
      (s.verdict a settings c [(call, answer)]) := by
  obtain ⟨next, hbefore, hcalls⟩ := does_cons_iff.1 hdoes
  have hcall : s.goesOn a settings c (s.answer a settings call mid).2 = false := by rwa [hanswer]
  have hfollow : s.follow a settings c s.plan next =
      (calls.map (·, .done) ++ [(call, answer)], after) := by
    rw [hplan, follow_of_does hcalls, follow_of_not_goesOn hcall, hanswer]
  obtain ⟨final, ending, hafter⟩ := exists_answer_ofResult a settings s .afterTest after rfl
  refine ⟨final, ending, hafter, ?_⟩
  rw [run_of_prepared hs hbefore hfollow hafter]
  have hlast : s.verdict a settings c [(.afterTest, .ofResult ending)] = ending := by
    cases ending <;> rfl
  rw [verdict_append, verdict_append, verdict_done, hlast]
  simp [Except.bind, Function.comp_def]

omit [Timer σ] in
theorem goesOn_of_judge {answer : Answer ε χ} {error : Error}
    (h : s.judge a settings c answer = some error) : s.goesOn a settings c answer = false := by
  refine Bool.eq_false_iff.2 fun hgo => ?_
  rw [judge_eq_none_of_goesOn hgo] at h
  cases h

/-- A call whose answer means an error is the last one but the end. -/
theorem run_of_failing (hs : s.error = none) {answer : Answer ε χ} {error : Error}
    (hplan : s.plan = calls ++ call :: rest)
    (hdoes : s.Does a settings (.beforeTest :: calls) state mid)
    (hanswer : s.answer a settings call mid = (after, answer))
    (hjudge : s.judge a settings c answer = some error) :
    s.EndsWith a settings c state (.beforeTest :: calls ++ [call]) after (.error error) := by
  have hends := run_of_stopped hs hplan hdoes hanswer (goesOn_of_judge hjudge)
  rwa [verdict_cons_of_some hjudge] at hends

/-- Events that a chain does not accept end the run before the checks. -/
theorem run_of_judged (hs : s.error = none) (hfaults : s.faults = []) {error : Error}
    (hpublishes : s.Publishes a settings state streams after)
    (hjudge : checkStreams settings c streams s.chains = .error error) :
    (s.run a settings c state).result = .error error ∧
      (s.run a settings c state).interactions =
        .beforeTest :: s.stages s.commands.length true 0 ++ [.afterTest] := by
  obtain ⟨acted, hacts, hpublished⟩ := hpublishes
  have herror : s.judge a settings c (.published streams) = some error := by
    rw [judge_streams a settings c hfaults, hjudge]
    rfl
  obtain ⟨final, ending, -, hrun⟩ := run_of_failing hs (plan_eq hfaults) hacts hpublished herror
  rw [hrun, stages_looked]
  exact ⟨rfl, rfl⟩

/-- A run that expects no error. It succeeds just if no call of the adapter fails, no command
returns an error, every chain accepts the published events of its stream, and every check passes.
Once the events are published, a chain that does not accept them keeps the run from the checks. If
all executions come to an end, the result is the report: it has a section for each chain in order,
and then lists the streams with published events, in ascending order and whether they have a chain
or not. Otherwise, the result is the error of the first execution that fails. -/
theorem run_acceptance (a : Adapter σ ε κ χ ς) (settings : Settings) (c : Canonicalizer ε)
    (state : σ) (hs : s.error = none) (hfaults : s.faults = []) :
    ((s.run a settings c state).result = .ok () ↔
      ∃ streams after, s.Publishes a settings state streams after ∧
        (∀ entry ∈ s.chains, entry.2.Accepts c entry.1 (streams.events entry.1)) ∧
        s.Closes a settings after) ∧
    ∀ streams after, s.Publishes a settings state streams after →
      ((∃ entry ∈ s.chains, ¬entry.2.Accepts c entry.1 (streams.events entry.1)) →
        (s.run a settings c state).interactions =
          .beforeTest :: s.stages s.commands.length true 0 ++ [.afterTest] ∧
        ((∀ entry ∈ s.chains, ∃ outcome, execution c streams entry = .ok outcome) →
          ∃ sections listed,
            List.Forall₂ (Reports c streams settings.separatorWidth) s.chains sections ∧
            listed.Pairwise (· < ·) ∧ (∀ id, id ∈ listed ↔ streams.events id ≠ []) ∧
            (s.run a settings c state).result =
              .error (.assertionFailed
                (String.join sections ++ ending settings.separatorWidth listed))) ∧
        ∀ before entry behind error, s.chains = before ++ entry :: behind →
          (∀ other ∈ before, ∃ outcome, execution c streams other = .ok outcome) →
          execution c streams entry = .error error →
            (s.run a settings c state).result = .error error) := by
  constructor
  · have hplan : Interaction.beforeTest :: (s.plan ++ [.afterTest]) =
        s.acts ++ .published :: ((List.range s.checks.length).map .check ++ [.afterTest]) := by
      rw [plan_eq hfaults, acts, List.append_assoc]
      rfl
    rw [result_eq_ok_iff hs hfaults, hplan]
    constructor
    · rintro ⟨final, hpasses⟩
      obtain ⟨acted, hacts, hbehind⟩ := passes_append_iff.1 hpasses
      obtain ⟨streams, after, hanswer, haccepts, hcloses⟩ :=
        (passes_published_iff hfaults).1 hbehind
      exact ⟨streams, after, ⟨acted, (passes_iff_does published_not_mem_acts).1 hacts, hanswer⟩,
        haccepts, closes_iff.2 ⟨final, hcloses⟩⟩
    · rintro ⟨streams, after, ⟨acted, hacts, hanswer⟩, haccepts, hcloses⟩
      obtain ⟨final, hpasses⟩ := (closes_iff (c := c)).1 hcloses
      exact ⟨final, passes_append_iff.2 ⟨acted, (passes_iff_does published_not_mem_acts).2 hacts,
        (passes_published_iff hfaults).2 ⟨streams, after, hanswer, haccepts, hpasses⟩⟩⟩
  · intro streams after hpublishes hrejected
    refine ⟨?_, fun hexecution => ?_, fun before entry behind error hchains hbefore hentry => ?_⟩
    · cases hjudge : checkStreams settings c streams s.chains with
      | ok =>
        obtain ⟨entry, hmem, hnot⟩ := hrejected
        exact absurd (checkStreams_eq_ok_iff.1 hjudge entry hmem) hnot
      | error error => exact (run_of_judged hs hfaults hpublishes hjudge).2
    · obtain ⟨sections, hsections, hjudge⟩ := checkStreams_of_rejected hexecution hrejected
      exact ⟨sections, streams.nonempty, hsections, streams.pairwise_nonempty,
        fun _ => streams.mem_nonempty_iff, (run_of_judged hs hfaults hpublishes hjudge).1⟩
    · have hjudge : checkStreams settings c streams s.chains = .error error :=
        checkStreams_of_failed hchains hbefore hentry
      exact (run_of_judged hs hfaults hpublishes hjudge).1

/-- A deposit on an account, what is expected of its events, no events on another account, and a
check of the fees. -/
def depositing (expected : Chain Bank.Event) :
    Scenario Bank.Event Bank.Command Bank.Fault Bank.Fees where
  commands := [.deposit "acc-1" 10]
  chains := [("acc-1", expected), ("acc-2", .nothing)]
  checks := [.after none fun fees => (fees, .ofBool (fees.collected == 0))]

/-- If the deposit is expected, the run succeeds. If no event is expected in its place, the run ends
without the check. -/
theorem run_acceptance_depositing :
    let bank := Bank.adapter .checked "Fault"
    let expected : Chain Bank.Event := .rules [.block ⟨.asGiven, [.deposited 10]⟩]
    ((depositing expected).run bank {} .byLabel {}).result = .ok () ∧
    ((depositing .nothing).run bank {} .byLabel {}).interactions =
      [.beforeTest, .seed ∅, .dispatch (.deposit "acc-1" 10), .published, .afterTest] := by
  intro bank expected
  let final : Bank := Bank.publish {} "acc-1" (.deposited 10)
  have hother : (Chain.nothing).Accepts .byLabel "acc-2" (final.published.events "acc-2") :=
    ⟨_, rfl, rfl⟩
  constructor
  · refine (run_acceptance bank {} .byLabel {} rfl rfl).1.2
      ⟨final.published, { bank := final },
        ⟨{ bank := final }, .cons rfl (.cons rfl (.cons rfl .nil)), rfl⟩, ?_,
        { bank := final }, { bank := final }, .cons rfl .nil, rfl⟩
    have hdeposit : expected.Accepts .byLabel "acc-1" (final.published.events "acc-1") :=
      ⟨_, rfl, rfl⟩
    rw [depositing, List.forall_mem_cons, List.forall_mem_singleton]
    exact ⟨hdeposit, hother⟩
  · refine ((run_acceptance bank {} .byLabel {} rfl rfl).2 final.published { bank := final }
      ⟨{ bank := final }, .cons rfl (.cons rfl (.cons rfl .nil)), rfl⟩
      ⟨("acc-1", .nothing), List.mem_cons_self, ?_⟩).1
    rintro ⟨outcome, hexecute, hsuccess⟩
    cases hexecute
    cases hsuccess

end GivenWhenThen.Scenario
