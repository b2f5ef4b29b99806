import Mathlib.Data.List.Chain
import GivenWhenThen.Chain.Basic

/-! Chains as they are built. `Chain.build` applies steps to the empty chain, one after the other,
and goes on with the chain that each of them leaves, failed or not. `Chain.WellFormed` holds of each
chain made so: one that expects nothing has no rules, no two gaps are neighbours, and no block is
without events. Such a chain with a rule passes the check that stands before its execution. -/

namespace GivenWhenThen

variable {ε : Type}

namespace Rule

/-- Two rules that may be neighbours: not both of them are gaps. -/
def Separate (a b : Rule ε) : Prop := ¬(a.isGap = true ∧ b.isGap = true)

/-- A block has events to look for. -/
def Filled : Rule ε → Prop
  | block b => b.events ≠ []
  | gap _ => True

end Rule

namespace Chain

/-- The chain that a step leaves, also where it fails. -/
def attempt (chain : Chain ε) (step : Step ε) : Chain ε :=
  match chain.apply step with
  | .ok () next => next
  | .error _ next => next

/-- The error of a step that fails. -/
def refusal? (chain : Chain ε) (step : Step ε) : Option Error :=
  match chain.apply step with
  | .ok () _ => none
  | .error error _ => some error

/-- The chain that steps build. -/
def build (steps : List (Step ε)) : Chain ε := steps.foldl attempt ∅

/-- A chain that steps can build. -/
def Built (chain : Chain ε) : Prop := ∃ steps, build steps = chain

/-- A chain that expects nothing has no rules, no two gaps are neighbours, and each block has
events. -/
structure WellFormed (chain : Chain ε) : Prop where
  alone : chain.isNothing = true → chain.toList = []
  separate : chain.toList.IsChain Rule.Separate
  filled : ∀ rule ∈ chain.toList, rule.Filled

variable {chain next : Chain ε} {rule : Rule ε} {step : Step ε} {error : Error}
  {l l' : List (Rule ε)}

@[simp] theorem isNothing_nothing : (nothing : Chain ε).isNothing = true := rfl

@[simp] theorem toList_nothing : (nothing : Chain ε).toList = [] := rfl

@[simp] theorem isNothing_rules : (rules l).isNothing = false := rfl

@[simp] theorem toList_rules : (rules l).toList = l := rfl

theorem rules_injective : Function.Injective (rules : List (Rule ε) → Chain ε) :=
  fun _ _ h => congrArg toList h

theorem wellFormed_empty : (∅ : Chain ε).WellFormed := ⟨nofun, .nil, nofun⟩

theorem WellFormed.eq_nothing_or_rules (h : chain.WellFormed) :
    chain = nothing ∨ ∃ l, chain = rules l := by
  obtain ⟨isNothing, l⟩ := chain
  cases isNothing with
  | false => exact .inr ⟨l, rfl⟩
  | true =>
    obtain rfl : l = [] := h.alone rfl
    exact .inl rfl

/-! ### One step -/

theorem run_expectNothing :
    expectNothing.run chain =
      if chain.toList.isEmpty then .ok () { chain with isNothing := true }
      else .error .noneWithRules chain := by
  change (if chain.toList.isEmpty then set { chain with isNothing := true }
    else throw .noneWithRules : Change ε Unit).run chain = _
  split_ifs <;> rfl

theorem run_push :
    (push rule).run chain =
      if chain.isNothing then .error .ruleAfterNone chain
      else if rule.isGap && chain.toList.getLast?.any Rule.isGap then
        .error .consecutiveGaps chain
      else .ok () { chain with toList := chain.toList ++ [rule] } := by
  change (if chain.isNothing then throw .ruleAfterNone
    else if rule.isGap && chain.toList.getLast?.any Rule.isGap then throw .consecutiveGaps
    else set { chain with toList := chain.toList ++ [rule] } : Change ε Unit).run chain = _
  split_ifs <;> rfl

theorem expectNothing_eq_ok_iff :
    expectNothing.run chain = .ok () next ↔
      chain.toList = [] ∧ next = { chain with isNothing := true } := by
  rw [run_expectNothing]
  cases chain.toList <;> simp [eq_comm]

/-- The rule could not follow the last one: both are gaps. -/
theorem isGap_and_any_iff :
    (rule.isGap && l.getLast?.any Rule.isGap) = true ↔
      ¬∀ last ∈ l.getLast?, last.Separate rule := by
  cases l.getLast? <;> simp [Rule.Separate, and_comm]

/-- What a rule that is pushed does to the chain. -/
theorem push_eq_ok_iff :
    (push rule).run chain = .ok () next ↔
      chain.isNothing = false ∧ (∀ last ∈ chain.toList.getLast?, last.Separate rule) ∧
        next = { chain with toList := chain.toList ++ [rule] } := by
  rw [run_push]
  split_ifs with hnothing hgap
  · simp [hnothing]
  · exact ⟨nofun, fun ⟨_, hlast, _⟩ => absurd hlast (isGap_and_any_iff.1 hgap)⟩
  · have hlast := not_not.1 (mt isGap_and_any_iff.2 hgap)
    exact ⟨fun hnext => by cases hnext; exact ⟨Bool.eq_false_iff.2 hnothing, hlast, rfl⟩,
      fun ⟨_, _, hnext⟩ => by rw [hnext]⟩

theorem WellFormed.push (h : chain.WellFormed) (hrule : rule.Filled)
    (hpush : (push rule).run chain = .ok () next) : next.WellFormed := by
  obtain ⟨hnothing, hlast, rfl⟩ := push_eq_ok_iff.1 hpush
  refine ⟨fun hsome => ?_, List.isChain_append.2 ⟨h.separate, .singleton _, ?_⟩, fun r hr => ?_⟩
  · rw [hnothing] at hsome
    cases hsome
  · rintro last hl r ⟨⟩
    exact hlast last hl
  · rcases List.mem_append.1 hr with hr | hr
    · exact h.filled r hr
    · rw [List.mem_singleton.1 hr]
      exact hrule

/-- Each step that is taken keeps a chain well formed. -/
theorem WellFormed.apply (h : chain.WellFormed) (happly : chain.apply step = .ok () next) :
    next.WellFormed := by
  cases step with
  | nothing =>
    obtain ⟨hnil, rfl⟩ := expectNothing_eq_ok_iff.1 happly
    exact ⟨fun _ => hnil, h.separate, h.filled⟩
  | block order events =>
    cases events with
    | nil => cases happly
    | cons e events =>
      have hfilled : (Rule.block ⟨order, e :: events⟩).Filled := List.cons_ne_nil e events
      exact h.push hfilled happly
  | gap exclusions => exact h.push (show (Rule.gap exclusions).Filled from trivial) happly

theorem eq_of_push_eq_error (h : (push rule).run chain = .error error next) : next = chain := by
  rw [run_push] at h
  split_ifs at h <;> cases h <;> rfl

/-- A step that fails has changed nothing. -/
theorem eq_of_apply_eq_error (h : chain.apply step = .error error next) : next = chain := by
  cases step with
  | nothing =>
    rw [show chain.apply .nothing = expectNothing.run chain from rfl, run_expectNothing] at h
    split_ifs at h
    cases h
    rfl
  | block order events =>
    cases events with
    | nil =>
      cases h
      rfl
    | cons => exact eq_of_push_eq_error h
  | gap exclusions => exact eq_of_push_eq_error h

theorem refusal?_eq_some_iff :
    chain.refusal? step = some error ↔ ∃ next, chain.apply step = .error error next := by
  rw [refusal?]
  cases chain.apply step <;> simp

theorem refusal?_eq_none_iff :
    chain.refusal? step = none ↔ ∃ next, chain.apply step = .ok () next := by
  rw [refusal?]
  cases chain.apply step <;> simp

theorem WellFormed.attempt (h : chain.WellFormed) (step : Step ε) :
    (chain.attempt step).WellFormed := by
  rw [Chain.attempt]
  split
  · next next happly => exact h.apply happly
  · next next happly =>
    rw [eq_of_apply_eq_error happly]
    exact h

/-! ### All steps -/

theorem build_append_singleton (steps : List (Step ε)) (step : Step ε) :
    build (steps ++ [step]) = (build steps).attempt step := by
  rw [build, List.foldl_append]
  rfl

theorem build_wellFormed (steps : List (Step ε)) : (build steps).WellFormed := by
  induction steps using List.reverseRecOn with
  | nil => exact wellFormed_empty
  | append_singleton steps step ih =>
    rw [build_append_singleton]
    exact ih.attempt step

theorem wellFormed_of_build {steps : List (Step ε)} (h : build steps = chain) :
    chain.WellFormed := by
  rw [← h]
  exact build_wellFormed steps

theorem Built.wellFormed (h : chain.Built) : chain.WellFormed := by
  obtain ⟨steps, hsteps⟩ := h
  exact wellFormed_of_build hsteps

theorem zip_tail_any_isGap :
    (l.zip l.tail).any (fun (a, b) => a.isGap && b.isGap) = false ↔ l.IsChain Rule.Separate := by
  induction l using List.twoStepInduction with
  | nil | singleton => simp
  | cons_cons a b l _ ih =>
    rw [List.isChain_cons_cons, ← ih b]
    simp [Rule.Separate]

/-- Rules pass the check before execution if there are some and no two gaps are neighbours. -/
theorem WellFormed.check_eq_ok (h : (rules l).WellFormed) (hne : l ≠ []) :
    (rules l).check = .ok () := by
  obtain ⟨r, rest, rfl⟩ := List.exists_cons_of_ne_nil hne
  have hany := zip_tail_any_isGap.2 h.separate
  exact if_neg (Bool.not_eq_true _ ▸ hany)

/-- The check before execution stops a chain just if it has no rules yet. -/
theorem WellFormed.check_eq_error_iff {error : Error} (h : chain.WellFormed) :
    chain.check = .error error ↔
      error = .emptyChain ∧ chain.isNothing = false ∧ chain.toList = [] := by
  obtain rfl | ⟨l, rfl⟩ := h.eq_nothing_or_rules
  · simp [check]
  · cases l with
    | nil => simp [check, eq_comm]
    | cons r rest =>
      rw [h.check_eq_ok (List.cons_ne_nil _ _)]
      simp

theorem WellFormed.check_isOk (h : chain.WellFormed)
    (hrules : chain.isNothing = true ∨ chain.toList ≠ []) : chain.check = .ok () := by
  cases hcheck : chain.check with
  | ok => rfl
  | error error =>
    obtain ⟨-, hnothing, hnil⟩ := h.check_eq_error_iff.1 hcheck
    rw [hnothing, hnil] at hrules
    simp at hrules

end Chain

end GivenWhenThen
