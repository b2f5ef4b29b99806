import GivenWhenThen.Proofs.Results
import GivenWhenThen.Run

/-! The calls of a run, one after the other. `Scenario.answer` says what the adapter makes of one
call and `Scenario.judge` which error of the run the answer means, if any. `Scenario.plan` lists the
calls that a scenario asks for between the preparation of the system and its end, and
`Scenario.follow` makes them up to the first whose answer does not let the run go on. -/

namespace GivenWhenThen

/-- What a call of the adapter comes to. -/
inductive Answer (ε χ : Type) where
  | done
  | published (streams : Streams ε)
  /-- The error of a command. -/
  | fault (fault : χ)
  /-- The adapter's own error, a failed check or the end of the time for the call. -/
  | failed (error : Error)

variable {σ ε κ χ ς : Type}

namespace Answer

def ofResult : Except Error Unit → Answer ε χ
  | .ok () => done
  | .error error => failed error

def ofDispatch : Except χ Unit → Answer ε χ
  | .ok () => done
  | .error f => fault f

def ofPublished : Except Error (Streams ε) → Answer ε χ
  | .ok streams => published streams
  | .error error => failed error

def ofVerdict : Verdict → Answer ε χ
  | .passed => done
  | .failed message => failed (Scenario.failedCheck message)

end Answer

namespace Scenario

variable (a : Adapter σ ε κ χ ς) (settings : Settings) (c : Canonicalizer ε) (s : Scenario ε κ χ ς)

/-- The state after a call under a timer, and its answer. -/
def answerIn {α : Type} (limit : Duration) (phase : Phase) (f : α → Answer ε χ)
    (task : Task σ α) : σ × Answer ε χ :=
  match task.within limit with
  | (state, some result) => (state, f result)
  | (state, none) => (state, .failed (.timeout phase.text settings.timeout))

/-- The state after a call of the adapter, and its answer. -/
def answer [Timer σ] : Interaction ε κ → σ → σ × Answer ε χ
  | .beforeTest, state =>
    answerIn settings (settings.limit state) .beforeTest .ofResult (a.beforeTest state)
  | .arrange index, state =>
    match s.arrangements[index]? with
    | some action => (a.withServices state (action (a.services state)), .done)
    | none => (state, .done)
  | .seed given, state =>
    answerIn settings (settings.limit state) .seed .ofResult (a.seed given state)
  | .dispatch command, state =>
    answerIn settings (settings.limit state) .dispatch .ofDispatch (a.dispatch command state)
  | .published, state =>
    answerIn settings (settings.limit state) .published .ofPublished (a.published state)
  | .check index, state =>
    match s.checks[index]? with
    | some check =>
      answerIn settings (settings.limit state) .check .ofVerdict
        ((check (a.services state)).mapState (a.withServices state))
    | none => (state, .done)
  | .afterTest, state =>
    answerIn settings (settings.limit state) .afterTest .ofResult (a.afterTest state)

/-- The error of the run that an answer means, if any. The error of a command is held against the
expected ones, and published events against the chains, or against the errors missing in their
place. -/
def judge : Answer ε χ → Option Error
  | .done => none
  | .failed error => some error
  | .fault fault =>
    if s.faults.isEmpty then some (unexpectedFault a fault)
    else failure? (s.faults.forM fun expected => expected.check a.faults fault)
  | .published streams =>
    if s.faults.isEmpty then failure? (checkStreams settings c streams s.chains)
    else
      match missingFault c streams with
      | .ok error | .error error => some error

/-- The run makes its next call after this answer. After the error of a command it does not,
expected or not. -/
def goesOn : Answer ε χ → Bool
  | .done => true
  | .published streams => (s.judge a settings c (.published streams)).isNone
  | .fault _ | .failed _ => false

/-- The calls between the preparation of the system and its end, if each of them lets the run go on.
-/
def plan : List (Interaction ε κ) :=
  (List.range s.arrangements.length).map .arrange ++ .seed s.given ::
    (s.commands.map .dispatch ++ .published ::
      if s.faults.isEmpty then (List.range s.checks.length).map .check else [])

/-- All arrangements, the history, the first so many commands, the published events if they are
looked at, and the first so many checks. -/
def stages (commands : Nat) (looked : Bool) (checks : Nat) : List (Interaction ε κ) :=
  (List.range s.arrangements.length).map .arrange ++ .seed s.given ::
    ((s.commands.take commands).map .dispatch ++ (if looked then [.published] else []) ++
      (List.range checks).map .check)

/-- The call did what it should: it is done, or no error is expected and the published events are as
expected. -/
def Succeeds (answer : Answer ε χ) : Prop :=
  answer = .done ∨ ∃ streams, answer = .published streams ∧ s.faults = [] ∧
    checkStreams settings c streams s.chains = .ok ()

/-- The calls between the preparation of the system and its end, of which each but the last has
succeeded, and all of the plan if the last one has. -/
structure Course (calls : List (Interaction ε κ × Answer ε χ)) (commands : Nat) (looked : Bool)
    (checks : Nat) : Prop where
  shape : calls.map Prod.fst = s.stages commands looked checks
  commands_le : commands ≤ s.commands.length
  checks_le : checks ≤ s.checks.length
  commands_of_looked : looked = true → commands = s.commands.length
  looked_of_checks : 0 < checks → looked = true
  succeeds : ∀ call ∈ calls.dropLast, s.Succeeds settings c call.2
  stops : calls.map Prod.fst = s.plan ∨
    ∃ call, calls.getLast? = some call ∧ ¬s.Succeeds settings c call.2

/-- Makes the calls of a plan up to the first whose answer does not let the run go on. -/
def follow [Timer σ] : List (Interaction ε κ) → σ → List (Interaction ε κ × Answer ε χ) × σ
  | [], state => ([], state)
  | call :: rest, state =>
    let (next, answer) := s.answer a settings call state
    if s.goesOn a settings c answer then
      let (calls, final) := follow rest next
      ((call, answer) :: calls, final)
    else ([(call, answer)], next)

/-- The first error that the answers mean. -/
def verdict (calls : List (Interaction ε κ × Answer ε χ)) : Except Error Unit :=
  match calls.findSome? fun call => s.judge a settings c call.2 with
  | some error => .error error
  | none => .ok ()

/-- Each answer is what the adapter makes of the call in the state that the calls before have left.
-/
inductive Answered [Timer σ] : σ → List (Interaction ε κ × Answer ε χ) → σ → Prop
  | nil {state : σ} : Answered state [] state
  | cons {state next final : σ} {call : Interaction ε κ} {answer : Answer ε χ}
      {calls : List (Interaction ε κ × Answer ε χ)}
      (first : s.answer a settings call state = (next, answer)) (rest : Answered next calls final) :
      Answered state ((call, answer) :: calls) final

variable {a settings c s}
  {state : σ} {call : Interaction ε κ} {rest calls plan : List (Interaction ε κ)}

theorem judge_eq_none_of_goesOn {answer : Answer ε χ} (h : s.goesOn a settings c answer = true) :
    s.judge a settings c answer = none := by
  cases answer with
  | done => rfl
  | published streams => exact Option.isNone_iff_eq_none.1 h
  | fault f => cases h
  | failed error => cases h

theorem judge_streams (a : Adapter σ ε κ χ ς) (settings : Settings) (c : Canonicalizer ε)
    (hfaults : s.faults = []) (streams : Streams ε) :
    s.judge a settings c (.published streams) =
      failure? (checkStreams settings c streams s.chains) := by
  simp only [judge, hfaults, List.isEmpty_nil, if_true]

theorem goesOn_iff {answer : Answer ε χ} :
    s.goesOn a settings c answer = true ↔ s.Succeeds settings c answer := by
  cases answer with
  | done => simp [goesOn, Succeeds]
  | published streams =>
    rw [goesOn, Option.isNone_iff_eq_none, judge]
    cases hfaults : s.faults with
    | nil => simp [Succeeds, hfaults, failure?_eq_none_iff]
    | cons expected rest =>
      cases hmissing : missingFault c streams <;> simp [Succeeds, hfaults]
  | fault f => simp [goesOn, Succeeds]
  | failed error => simp [goesOn, Succeeds]

theorem verdict_append (calls calls' : List (Interaction ε κ × Answer ε χ)) :
    s.verdict a settings c (calls ++ calls') =
      (s.verdict a settings c calls).bind fun () => s.verdict a settings c calls' := by
  rw [verdict, List.findSome?_append, verdict]
  cases calls.findSome? fun call => s.judge a settings c call.2 <;> rfl

theorem verdict_append_eq_ok_iff {calls calls' : List (Interaction ε κ × Answer ε χ)} :
    s.verdict a settings c (calls ++ calls') = .ok () ↔
      s.verdict a settings c calls = .ok () ∧ s.verdict a settings c calls' = .ok () := by
  rw [verdict_append]
  cases s.verdict a settings c calls <;> simp [Except.bind]

theorem verdict_cons {answer : Answer ε χ} {calls : List (Interaction ε κ × Answer ε χ)}
    (h : s.judge a settings c answer = none) :
    s.verdict a settings c ((call, answer) :: calls) = s.verdict a settings c calls := by
  rw [verdict, List.findSome?_cons, h]
  rfl

theorem verdict_cons_of_some {answer : Answer ε χ} {error : Error}
    {calls : List (Interaction ε κ × Answer ε χ)} (h : s.judge a settings c answer = some error) :
    s.verdict a settings c ((call, answer) :: calls) = .error error := by
  rw [verdict, List.findSome?_cons, h]

variable [Timer σ]

theorem follow_of_goesOn (h : s.goesOn a settings c (s.answer a settings call state).2 = true) :
    s.follow a settings c (call :: rest) state =
      ((call, (s.answer a settings call state).2) ::
          (s.follow a settings c rest (s.answer a settings call state).1).1,
        (s.follow a settings c rest (s.answer a settings call state).1).2) :=
  if_pos h

theorem follow_of_not_goesOn
    (h : s.goesOn a settings c (s.answer a settings call state).2 = false) :
    s.follow a settings c (call :: rest) state =
      ([(call, (s.answer a settings call state).2)], (s.answer a settings call state).1) :=
  if_neg (Bool.eq_false_iff.1 h)

section Follow

variable (a settings c s)

theorem answered_follow (plan : List (Interaction ε κ)) (state : σ) :
    s.Answered a settings state (s.follow a settings c plan state).1
      (s.follow a settings c plan state).2 := by
  induction plan generalizing state with
  | nil => exact .nil
  | cons call rest ih =>
    cases h : s.goesOn a settings c (s.answer a settings call state).2 with
    | true =>
      rw [follow_of_goesOn h]
      exact .cons rfl (ih _)
    | false =>
      rw [follow_of_not_goesOn h]
      exact .cons rfl .nil

/-- The calls that are made are the first ones of the plan. -/
theorem map_fst_follow (plan : List (Interaction ε κ)) (state : σ) :
    (s.follow a settings c plan state).1.map Prod.fst <+: plan := by
  induction plan generalizing state with
  | nil => exact List.nil_prefix
  | cons call rest ih =>
    cases h : s.goesOn a settings c (s.answer a settings call state).2 with
    | true =>
      rw [follow_of_goesOn h]
      exact (List.prefix_cons_inj call).2 (ih _)
    | false =>
      rw [follow_of_not_goesOn h]
      exact ⟨rest, rfl⟩

/-- Behind each call but the last, the run goes on. -/
theorem goesOn_of_mem_dropLast (plan : List (Interaction ε κ)) (state : σ) :
    ∀ call ∈ (s.follow a settings c plan state).1.dropLast,
      s.goesOn a settings c call.2 = true := by
  induction plan generalizing state with
  | nil => simp [follow]
  | cons call rest ih =>
    cases h : s.goesOn a settings c (s.answer a settings call state).2 with
    | true =>
      rw [follow_of_goesOn h]
      intro other hother
      by_cases hnil : (s.follow a settings c rest (s.answer a settings call state).1).1 = []
      · simp [hnil] at hother
      · rw [List.dropLast_cons_of_ne_nil hnil] at hother
        rcases List.mem_cons.1 hother with rfl | hother
        · exact h
        · exact ih _ other hother
    | false =>
      rw [follow_of_not_goesOn h]
      simp

/-- Only an answer that does not let the run go on keeps it from the rest of the plan. -/
theorem follow_complete_or_stops (plan : List (Interaction ε κ)) (state : σ) :
    (s.follow a settings c plan state).1.map Prod.fst = plan ∨
      ∃ call, (s.follow a settings c plan state).1.getLast? = some call ∧
        s.goesOn a settings c call.2 = false := by
  induction plan generalizing state with
  | nil => exact .inl rfl
  | cons call rest ih =>
    cases h : s.goesOn a settings c (s.answer a settings call state).2 with
    | true =>
      rw [follow_of_goesOn h]
      rcases ih (s.answer a settings call state).1 with hall | ⟨last, hlast, hstop⟩
      · exact .inl (by rw [List.map_cons, hall])
      · exact .inr ⟨last, by rw [List.getLast?_cons, hlast]; rfl, hstop⟩
    | false =>
      rw [follow_of_not_goesOn h]
      exact .inr ⟨_, rfl, h⟩

end Follow

theorem follow_singleton (call : Interaction ε κ) (state : σ) :
    s.follow a settings c [call] state =
      ([(call, (s.answer a settings call state).2)], (s.answer a settings call state).1) := by
  cases h : s.goesOn a settings c (s.answer a settings call state).2 with
  | true => rw [follow_of_goesOn h, follow]
  | false => rw [follow_of_not_goesOn h]

theorem Answered.append {calls calls' : List (Interaction ε κ × Answer ε χ)} {next final : σ}
    (h : s.Answered a settings state calls next) (h' : s.Answered a settings next calls' final) :
    s.Answered a settings state (calls ++ calls') final := by
  induction h with
  | nil => exact h'
  | cons first _ ih => exact .cons first (ih h')

theorem Answered.exists_of_mem {calls : List (Interaction ε κ × Answer ε χ)} {final : σ}
    (h : s.Answered a settings state calls final) :
    ∀ call ∈ calls, ∃ before, call.2 = (s.answer a settings call.1 before).2 := by
  induction h with
  | nil => simp
  | @cons before next final call answer calls first _ ih =>
    intro other hother
    rcases List.mem_cons.1 hother with rfl | hother
    · exact ⟨before, by rw [first]⟩
    · exact ih other hother

/-! ### The shape of the calls -/

theorem goesOn_arrange (index : Nat) (state : σ) :
    s.goesOn a settings c (s.answer a settings (.arrange index) state).2 = true := by
  rw [answer]
  split <;> rfl

theorem take_append_cons {α : Type} {l l' : List α} {x : α} {k n : Nat} (hk : l.length = k) :
    (l ++ x :: l').take (k + (n + 1)) = l ++ x :: l'.take n := by
  rw [← hk, List.take_length_add_append, List.take_succ_cons]

section Shape

variable (a settings c s)

/-- Arrangements do not fail, so that the history is always seeded. -/
theorem length_lt_follow_plan (state : σ) :
    s.arrangements.length < (s.follow a settings c s.plan state).1.length := by
  refine Nat.not_le.1 fun hle => ?_
  rcases follow_complete_or_stops a settings c s s.plan state with hall | ⟨call, hlast, hstop⟩
  · have hlen := congrArg List.length hall
    rw [List.length_map] at hlen
    rw [hlen, plan, List.length_append, List.length_map, List.length_range, List.length_cons] at hle
    omega
  -- The last call would be an arrangement, whose answer lets the run go on.
  · obtain ⟨before, hanswer⟩ :=
      (answered_follow a settings c s s.plan state).exists_of_mem call (List.mem_of_getLast? hlast)
    have hbegins : (s.follow a settings c s.plan state).1.map Prod.fst <+:
        (List.range s.arrangements.length).map .arrange :=
      List.prefix_of_prefix_length_le (map_fst_follow a settings c s s.plan state)
        (List.prefix_append _ _) (by simpa using hle)
    obtain ⟨index, -, hcall⟩ := List.mem_map.1
      (hbegins.subset (List.mem_map_of_mem (List.mem_of_getLast? hlast)))
    rw [hanswer, ← hcall, goesOn_arrange] at hstop
    cases hstop

/-- The calls that are made have the shape of a run. -/
theorem exists_course (state : σ) :
    ∃ commands looked checks,
      s.Course settings c (s.follow a settings c s.plan state).1 commands looked checks := by
  have hsucceeds : ∀ call ∈ (s.follow a settings c s.plan state).1.dropLast,
      s.Succeeds settings c call.2 := fun call hcall =>
    goesOn_iff.1 (goesOn_of_mem_dropLast a settings c s s.plan state call hcall)
  have hstops : (s.follow a settings c s.plan state).1.map Prod.fst = s.plan ∨
      ∃ call, (s.follow a settings c s.plan state).1.getLast? = some call ∧
        ¬s.Succeeds settings c call.2 := by
    simp only [← goesOn_iff (a := a), Bool.not_eq_true]
    exact follow_complete_or_stops a settings c s s.plan state
  have hbegins := List.prefix_iff_eq_take.1 (map_fst_follow a settings c s s.plan state)
  obtain ⟨n, hn⟩ := Nat.exists_eq_add_of_lt (length_lt_follow_plan a settings c s state)
  rw [List.length_map, hn, Nat.add_assoc, plan, take_append_cons (by simp)] at hbegins
  -- The calls behind the history are the first `n` of the plan: some of the commands, or all of
  -- them with the published events and some of the checks.
  by_cases hcommands : n ≤ s.commands.length
  · refine ⟨n, false, 0, hbegins.trans ?_, hcommands, Nat.zero_le _, nofun, nofun, hsucceeds,
      hstops⟩
    rw [List.take_append_of_le_length (by simpa using hcommands), ← List.map_take]
    simp [stages]
  · obtain ⟨k, hk⟩ := Nat.exists_eq_add_of_lt (Nat.not_le.1 hcommands)
    rw [hk, Nat.add_assoc, take_append_cons (by simp)] at hbegins
    cases hfaults : s.faults.isEmpty with
    | true =>
      refine ⟨s.commands.length, true, min k s.checks.length, hbegins.trans ?_, Nat.le_refl _,
        Nat.min_le_right _ _, fun _ => rfl, fun _ => rfl, hsucceeds, hstops⟩
      simp [hfaults, stages, ← List.map_take, List.take_range]
    | false =>
      refine ⟨s.commands.length, true, 0, hbegins.trans ?_, Nat.le_refl _, Nat.zero_le _,
        fun _ => rfl, fun _ => rfl, hsucceeds, hstops⟩
      simp [hfaults, stages]

end Shape

end Scenario

end GivenWhenThen
