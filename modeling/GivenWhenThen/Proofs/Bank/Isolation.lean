import GivenWhenThen.Bank.Basic
import GivenWhenThen.Proofs.Run.Record

/-! Runs on one bank, one after the other. To prepare a bank for a run is to forget its events, so
that only its fees are left of what was before: `run_eq_of_fees` says so of one run, and
`outcomes_eq_of_fees` of all runs that follow, by induction on them. By `run_isolation` the runs
before decide nothing about a run but through the fees that they have left, however the bank is
built. A run in which an amount goes out of range may end with a panic; `Trial.run_of_panic` says
where. -/

namespace GivenWhenThen

namespace Scenario

variable {σ ε κ χ ς : Type} [Timer σ] {a : Adapter σ ε κ χ ς} {settings : Settings}
  {c : Canonicalizer ε} {s : Scenario ε κ χ ς} {state state' : σ}

/-- Of the state before it, a run sees what the preparation of the system makes of it. -/
theorem run_eq_of_beforeTest (hs : s.error = none)
    (h : s.answer a settings .beforeTest state' = s.answer a settings .beforeTest state) :
    s.run a settings c state' = s.run a settings c state := by
  have hprepare (state : σ) := run_callOrFail a settings c s .beforeTest (fun _ => rfl) { state }
  simp only [run, hs, hprepare, h]

/-- Where building the scenario has failed, the system is left alone. -/
theorem run_of_error {error : Error} (hs : s.error = some error) :
    s.run a settings c state = ⟨.error error, state, []⟩ := by
  simp only [run, hs]

end Scenario

namespace Bank

/-- A run to be made on a bank. -/
structure Trial where
  scenario : Scenario Event Command Fault Fees
  settings : Settings := {}
  canonicalizer : Canonicalizer Event

/-- What a run on a bank comes to, and the bank that it leaves. -/
structure Trial.Ended where
  /-- There is no result where a command has panicked. -/
  result : Option (Except Error Unit)
  bank : Bank
  interactions : List (Interaction Event Command)

section Runs

variable [Timer Hosted] (build : Build) (faultName : String)

/-- Makes the run. A panic is the end of it: nothing is called any more, not even to end the run. -/
def Trial.run (trial : Trial) (bank : Bank) : Trial.Ended :=
  let ended :=
    trial.scenario.run (adapter build faultName) trial.settings trial.canonicalizer { bank }
  if ended.state.panicked then ⟨none, ended.state.bank, ended.interactions.dropLast⟩
  else ⟨some ended.result, ended.state.bank, ended.interactions⟩

/-- The bank that runs leave, one after the other. -/
def left (trials : List Trial) (bank : Bank) : Bank :=
  trials.foldl (fun bank trial => (trial.run build faultName bank).bank) bank

/-- What runs come to, one after the other: their results, and their uses of the adapter. -/
def outcomes : List Trial → Bank →
    List (Option (Except Error Unit) × List (Interaction Event Command))
  | [], _ => []
  | trial :: trials, bank =>
    let ended := trial.run build faultName bank
    (ended.result, ended.interactions) :: outcomes trials ended.bank

variable {build faultName} {trial : Trial} {trials : List Trial} {bank bank' : Bank}

/-! ### Panics -/

section Panic

variable {s : Scenario Event Command Fault Fees} {settings : Settings} {p final : Hosted}
  {command : Command} {calls : List (Interaction Event Command × Answer Event Fault)}

variable (build faultName s settings) in
theorem panicked_answer (call : Interaction Event Command) (p : Hosted) :
    (∃ command, call = .dispatch command ∧ p.bank.dispatch build command = none) ∨
      (s.answer (adapter build faultName) settings call p).1.panicked = p.panicked := by
  cases call with
  | beforeTest | seed | published | afterTest => exact .inr rfl
  | arrange index =>
    rw [Scenario.answer]
    split <;> exact .inr rfl
  | check index =>
    cases hcheck : s.checks[index]? with
    | none => exact .inr (by simp only [Scenario.answer, hcheck])
    | some check =>
      -- A check changes the services alone.
      rcases hwithin : (check p.bank.fees).within (settings.limit p) with ⟨fees, _ | verdict⟩ <;>
        exact .inr (by simp only [Scenario.answer, hcheck, Scenario.answerIn,
          Task.within_mapState, adapter, hwithin])
  | dispatch command =>
    cases hdispatch : p.bank.dispatch build command with
    | none => exact .inl ⟨command, rfl, hdispatch⟩
    | some answered =>
      exact .inr (by
        simp only [Scenario.answer, Scenario.answerIn, adapter, hdispatch, Task.within])

theorem answer_of_panic (h : p.bank.dispatch build command = none) :
    s.answer (adapter build faultName) settings (.dispatch command) p =
      ({ p with panicked := true },
        .failed (.timeout Phase.dispatch.text settings.timeout)) := by
  simp only [Scenario.answer, Scenario.answerIn, adapter, h, Task.within]

/-- A process that is gone behind calls has panicked at the first of them that is a command without
an answer. -/
theorem exists_panic (h : s.Answered (adapter build faultName) settings p calls final)
    (hbefore : p.panicked = false) (hpanicked : final.panicked = true) :
    ∃ before command error behind, ∃ mid : Hosted,
      calls = before ++ (.dispatch command, .failed error) :: behind ∧
      mid.bank.dispatch build command = none ∧
      s.Answered (adapter build faultName) settings { mid with panicked := true } behind final := by
  induction h with
  | nil =>
    rw [hbefore] at hpanicked
    cases hpanicked
  | @cons p next final call answer calls first rest ih =>
    rcases panicked_answer build faultName s settings call p with ⟨command, rfl, hnone⟩ | hkept
    · rw [answer_of_panic hnone, Prod.mk.injEq] at first
      obtain ⟨rfl, rfl⟩ := first
      exact ⟨[], command, _, calls, p, rfl, hnone, rest⟩
    · rw [first, hbefore] at hkept
      obtain ⟨before, command, error, behind, mid, rfl, hnone, hbehind⟩ := ih hkept hpanicked
      exact ⟨(call, answer) :: before, command, error, behind, mid, rfl, hnone, hbehind⟩

/-- A panic happens in the last call of a run, a command that the bank does not answer. -/
theorem Trial.run_of_panic (h : (trial.run build faultName bank).result = none) :
    ∃ before command,
      (trial.run build faultName bank).interactions = before ++ [.dispatch command] ∧
      (trial.run build faultName bank).bank.dispatch build command = none := by
  rw [Trial.run] at h ⊢
  split at h
  · next hpanicked =>
    rw [if_pos hpanicked]
    cases hs : trial.scenario.error with
    | some error =>
      rw [Scenario.run_of_error hs] at hpanicked
      cases hpanicked
    | none =>
      obtain ⟨calls, hrecord⟩ := Scenario.exists_record (adapter build faultName) trial.settings
        trial.canonicalizer hs { bank }
      obtain ⟨before, command, error, behind, mid, hcalls, hnone, hbehind⟩ :=
        exists_panic hrecord.answered rfl hpanicked
      have hclosing := hrecord.stops before _ behind hcalls rfl
      -- Behind the panic there would only be the end of the run, which leaves the bank as it is.
      obtain ⟨⟨_, last⟩, rfl, rfl⟩ := List.map_eq_singleton_iff.1 hclosing
      obtain _ | ⟨first, ⟨⟩⟩ := hbehind
      refine ⟨before.map Prod.fst, command, ?_, ?_⟩
      · rw [hrecord.interactions, hcalls]
        simp
      · obtain ⟨hfinal, -⟩ := Prod.mk.inj first
        rw [← hfinal]
        exact hnone
  · cases h

end Panic

/-! ### Fees -/

/-- Preparing a bank takes no time, and forgets its events. -/
theorem answer_beforeTest (s : Scenario Event Command Fault Fees) (settings : Settings)
    (bank : Bank) :
    s.answer (adapter build faultName) settings .beforeTest { bank } =
      ({ bank := { fees := bank.fees } }, .done) := rfl

theorem run_eq_of_fees (hbuilt : trial.scenario.error = none) (hfees : bank'.fees = bank.fees) :
    trial.run build faultName bank' = trial.run build faultName bank := by
  have hrun : trial.scenario.run (adapter build faultName) trial.settings trial.canonicalizer
      { bank := bank' } = trial.scenario.run (adapter build faultName) trial.settings
      trial.canonicalizer { bank } := by
    apply Scenario.run_eq_of_beforeTest hbuilt
    rw [answer_beforeTest, answer_beforeTest, hfees]
  rw [Trial.run, Trial.run, hrun]

variable (build faultName)

theorem run_agrees_of_fees (trial : Trial) (hfees : bank'.fees = bank.fees) :
    (trial.run build faultName bank').result = (trial.run build faultName bank).result ∧
      (trial.run build faultName bank').interactions =
        (trial.run build faultName bank).interactions ∧
      (trial.run build faultName bank').bank.fees =
        (trial.run build faultName bank).bank.fees := by
  cases hs : trial.scenario.error with
  | none => simp only [run_eq_of_fees hs hfees, and_self]
  | some error =>
    simp only [Trial.run, Scenario.run_of_error hs, Bool.false_eq_true, if_false, hfees, and_self]

theorem left_cons (trial : Trial) (trials : List Trial) (bank : Bank) :
    left build faultName (trial :: trials) bank =
      left build faultName trials (trial.run build faultName bank).bank := rfl

theorem outcomes_eq_of_fees (trials : List Trial) (hfees : bank'.fees = bank.fees) :
    outcomes build faultName trials bank' = outcomes build faultName trials bank ∧
      (left build faultName trials bank').fees = (left build faultName trials bank).fees := by
  induction trials generalizing bank bank' with
  | nil => exact ⟨rfl, hfees⟩
  | cons trial trials ih =>
    obtain ⟨hresult, hinteractions, hleft⟩ := run_agrees_of_fees build faultName trial hfees
    obtain ⟨houtcomes, hfinal⟩ := ih hleft
    refine ⟨?_, hfinal⟩
    simp only [outcomes, hresult, hinteractions, houtcomes]

variable {build faultName}

/-- From the first run on that is made, the banks are the same. -/
theorem left_eq_of_fees (hfees : bank'.fees = bank.fees)
    (hmade : ∃ trial ∈ trials, trial.scenario.error = none) :
    left build faultName trials bank' = left build faultName trials bank := by
  induction trials generalizing bank bank' with
  | nil => simp at hmade
  | cons trial trials ih =>
    rw [left_cons, left_cons]
    by_cases hbuilt : trial.scenario.error = none
    · rw [run_eq_of_fees hbuilt hfees]
    · obtain ⟨-, -, hleft⟩ := run_agrees_of_fees build faultName trial hfees
      refine ih hleft ?_
      obtain ⟨other, hmem, hother⟩ := hmade
      rcases List.mem_cons.1 hmem with rfl | hmem
      · exact absurd hother hbuilt
      · exact ⟨other, hmem, hother⟩

/-- If the runs before have left the same fees on two banks, whatever their events, then a run that
is made has the same end on both, the same bank included, and all runs that follow come to the same.
This holds however the bank is built, and where amounts go out of range. -/
theorem run_isolation (build : Build) (faultName : String) (earlier earlier' : List Trial)
    (bank bank' : Bank)
    (hfees : (left build faultName earlier' bank').fees =
      (left build faultName earlier bank).fees) :
    (∀ trial : Trial, trial.scenario.error = none →
      trial.run build faultName (left build faultName earlier' bank') =
        trial.run build faultName (left build faultName earlier bank)) ∧
    ∀ later : List Trial,
      outcomes build faultName later (left build faultName earlier' bank') =
          outcomes build faultName later (left build faultName earlier bank) ∧
        (left build faultName (earlier' ++ later) bank').fees =
          (left build faultName (earlier ++ later) bank).fees ∧
        ((∃ trial ∈ later, trial.scenario.error = none) →
          left build faultName (earlier' ++ later) bank' =
            left build faultName (earlier ++ later) bank) := by
  refine ⟨fun trial hbuilt => run_eq_of_fees hbuilt hfees, fun later => ?_⟩
  have happend (earlier : List Trial) (bank : Bank) :
      left build faultName (earlier ++ later) bank =
        left build faultName later (left build faultName earlier bank) := List.foldl_append
  obtain ⟨houtcomes, hleft⟩ := outcomes_eq_of_fees build faultName later hfees
  rw [happend, happend]
  exact ⟨houtcomes, hleft, left_eq_of_fees hfees⟩

end Runs

/-- A run that has deposited money does not help one that wants to withdraw it. -/
theorem run_isolation_withdrawing :
    let depositing : Trial :=
      { scenario := { commands := [.deposit "acc-1" 10] }, canonicalizer := .byLabel }
    let withdrawing : Trial :=
      { scenario := { commands := [.withdraw "acc-1" 10] }, canonicalizer := .byLabel }
    (left .checked "Bank.Fault" [depositing] {}).balance .checked "acc-1" = some 10 ∧
      withdrawing.run .checked "Bank.Fault" (left .checked "Bank.Fault" [depositing] {}) =
        withdrawing.run .checked "Bank.Fault" {} := by
  intro depositing withdrawing
  refine ⟨by decide, ?_⟩
  exact (run_isolation .checked "Bank.Fault" [] [depositing] {} {} (by decide)).1 withdrawing rfl

end Bank

end GivenWhenThen
