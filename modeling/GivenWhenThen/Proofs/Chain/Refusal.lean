import GivenWhenThen.Proofs.Chain.Laziness

/-! Which steps a chain takes, and which it refuses. `Refuses` says with which error a chain refuses
a step, and by `WellFormed.apply_eq_error_iff` there is no other way to fail, and none that leaves a
changed chain. `build_invariant` puts this together for all chains that steps build: what they look
like, what the next step does to them, and that only a chain without rules is kept from its
execution. In turn, any rules that look like those of a chain are pushed one by one, by
`forM_push`. -/

namespace GivenWhenThen

variable {ε : Type}

/-- The step that adds a rule. -/
def Rule.step : Rule ε → Chain.Step ε
  | block b => .block b.order b.events
  | gap exclusions => .gap exclusions

namespace Chain

/-- The rule that a step adds, if it adds one. -/
def Step.rule? : Step ε → Option (Rule ε)
  | nothing => none
  | block order events => some (.block ⟨order, events⟩)
  | gap exclusions => some (.gap exclusions)

/-- The chain that a step asks for: one more rule at the end, or no events at all, and otherwise the
chain as it is. -/
def extend (chain : Chain ε) (step : Step ε) : Chain ε :=
  match step.rule? with
  | none => { chain with isNothing := true }
  | some rule => { chain with toList := chain.toList ++ [rule] }

/-- The error with which a chain refuses a step. -/
inductive Refuses : Chain ε → Step ε → Error → Prop
  /-- No chain takes a block without events. -/
  | emptyBlock {chain : Chain ε} {order : Order} : Refuses chain (.block order []) .emptyBlock
  /-- A chain that expects no events takes no rule. -/
  | afterNothing {chain : Chain ε} {step : Step ε} {rule : Rule ε}
      (nothing : chain.isNothing = true) (adds : step.rule? = some rule) (filled : rule.Filled) :
      Refuses chain step .ruleAfterNone
  /-- A chain with rules cannot expect no events. -/
  | withRules {chain : Chain ε} (some : chain.toList ≠ []) :
      Refuses chain .nothing .noneWithRules
  /-- A chain that ends with a gap takes no gap. -/
  | afterGap {chain : Chain ε} {last exclusions : List (Exclusion ε)}
      (ends : chain.toList.getLast? = some (.gap last)) :
      Refuses chain (.gap exclusions) .consecutiveGaps

variable {chain next : Chain ε} {rule : Rule ε} {step : Step ε} {error : Error}
  {l l' : List (Rule ε)}

/-! ### One step -/

theorem expectNothing_eq_error_iff :
    expectNothing.run chain = .error error next ↔
      chain.toList ≠ [] ∧ error = .noneWithRules ∧ next = chain := by
  rw [run_expectNothing]
  cases chain.toList <;> simp [eq_comm]

theorem push_eq_error_iff :
    (push rule).run chain = .error error next ↔
      ((chain.isNothing = true ∧ error = .ruleAfterNone) ∨
        (chain.isNothing = false ∧ rule.isGap = true ∧
          (∃ last, chain.toList.getLast? = some (.gap last)) ∧ error = .consecutiveGaps)) ∧
      next = chain := by
  have hgap : (rule.isGap && chain.toList.getLast?.any Rule.isGap) = true ↔
      rule.isGap = true ∧ ∃ last, chain.toList.getLast? = some (.gap last) := by
    rw [Bool.and_eq_true]
    rcases chain.toList.getLast? with _ | _ | _ <;> simp [Rule.isGap]
  rw [run_push]
  split_ifs with hnothing hrefused
  · constructor
    · rintro ⟨⟩
      exact ⟨.inl ⟨hnothing, rfl⟩, rfl⟩
    · rintro ⟨⟨-, rfl⟩ | ⟨hsome, -⟩, rfl⟩
      · rfl
      · rw [hnothing] at hsome
        cases hsome
  · constructor
    · rintro ⟨⟩
      obtain ⟨hrule, hlast⟩ := hgap.1 hrefused
      exact ⟨.inr ⟨Bool.eq_false_iff.2 hnothing, hrule, hlast, rfl⟩, rfl⟩
    · rintro ⟨⟨hsome, -⟩ | ⟨-, -, -, rfl⟩, rfl⟩
      · exact absurd hsome hnothing
      · rfl
  · constructor
    · exact nofun
    · rintro ⟨⟨hsome, -⟩ | ⟨-, hrule, hlast, -⟩, -⟩
      · exact absurd hsome hnothing
      · exact absurd (hgap.2 ⟨hrule, hlast⟩) hrefused

/-- A rule with events to look for is pushed by its step. -/
theorem push_eq_apply (h : rule.Filled) : (push rule).run chain = chain.apply rule.step := by
  cases rule with
  | gap exclusions => rfl
  | block b =>
    obtain ⟨order, _ | ⟨e, events⟩⟩ := b
    · exact absurd rfl h
    · rfl

/-- A step that fails is one that the chain refuses. -/
theorem refuses_of_apply (h : chain.apply step = .error error next) :
    chain.Refuses step error := by
  cases step with
  | nothing =>
    obtain ⟨hrules, rfl, -⟩ := expectNothing_eq_error_iff.1 h
    exact .withRules hrules
  | block order events =>
    obtain _ | ⟨e, events⟩ := events
    · cases h
      exact .emptyBlock
    · obtain ⟨⟨hnothing, rfl⟩ | ⟨-, ⟨⟩, -⟩, -⟩ := push_eq_error_iff.1 h
      exact .afterNothing hnothing rfl (List.cons_ne_nil _ _)
  | gap exclusions =>
    obtain ⟨⟨hnothing, rfl⟩ | ⟨-, -, ⟨last, hlast⟩, rfl⟩, -⟩ := push_eq_error_iff.1 h
    · exact .afterNothing hnothing rfl trivial
    · exact .afterGap hlast

theorem WellFormed.isNothing_eq_false (h : chain.WellFormed) (hne : chain.toList ≠ []) :
    chain.isNothing = false :=
  Bool.eq_false_iff.2 (mt h.alone hne)

theorem WellFormed.apply_of_refuses (h : chain.WellFormed) (hrefuses : chain.Refuses step error) :
    chain.apply step = .error error chain := by
  cases hrefuses with
  | emptyBlock => rfl
  | afterNothing hnothing adds filled =>
    cases step with
    | nothing => cases adds
    | block order events =>
      cases adds
      obtain ⟨e, events, rfl⟩ := List.exists_cons_of_ne_nil filled
      exact push_eq_error_iff.2 ⟨.inl ⟨hnothing, rfl⟩, rfl⟩
    | gap exclusions => exact push_eq_error_iff.2 ⟨.inl ⟨hnothing, rfl⟩, rfl⟩
  | withRules hrules => exact expectNothing_eq_error_iff.2 ⟨hrules, rfl, rfl⟩
  | afterGap hlast =>
    have hsome := h.isNothing_eq_false (List.ne_nil_of_mem (List.mem_of_getLast? hlast))
    exact push_eq_error_iff.2 ⟨.inr ⟨hsome, rfl, ⟨_, hlast⟩, rfl⟩, rfl⟩

/-- A step fails just if the chain refuses it, and leaves the chain as it was then. -/
theorem WellFormed.apply_eq_error_iff (h : chain.WellFormed) :
    chain.apply step = .error error next ↔ chain.Refuses step error ∧ next = chain := by
  constructor
  · intro happly
    exact ⟨refuses_of_apply happly, eq_of_apply_eq_error happly⟩
  · rintro ⟨hrefuses, rfl⟩
    exact h.apply_of_refuses hrefuses

/-- A step that is taken does what it asks for. -/
theorem eq_extend_of_apply (h : chain.apply step = .ok () next) : next = chain.extend step := by
  cases step with
  | nothing => exact (expectNothing_eq_ok_iff.1 h).2
  | block order events =>
    obtain _ | ⟨e, events⟩ := events
    · cases h
    · exact (push_eq_ok_iff.1 h).2.2
  | gap exclusions => exact (push_eq_ok_iff.1 h).2.2

/-- A step is taken just if the chain does not refuse it, and then does what it asks for. -/
theorem WellFormed.apply_eq_ok_iff (h : chain.WellFormed) :
    chain.apply step = .ok () next ↔
      (∀ error, ¬chain.Refuses step error) ∧ next = chain.extend step := by
  constructor
  · intro happly
    refine ⟨fun error hrefuses => ?_, eq_extend_of_apply happly⟩
    rw [h.apply_of_refuses hrefuses] at happly
    cases happly
  · rintro ⟨htaken, rfl⟩
    cases happly : chain.apply step with
    | ok _ next => rw [eq_extend_of_apply happly]
    | error error next => exact absurd (refuses_of_apply happly) (htaken error)

/-! ### All steps -/

theorem WellFormed.attempt_of_refuses (h : chain.WellFormed) (hrefuses : chain.Refuses step error) :
    chain.attempt step = chain := by
  rw [Chain.attempt, h.apply_of_refuses hrefuses]

theorem WellFormed.attempt_of_not_refuses (h : chain.WellFormed)
    (htaken : ∀ error, ¬chain.Refuses step error) : chain.attempt step = chain.extend step := by
  rw [Chain.attempt, h.apply_eq_ok_iff.2 ⟨htaken, rfl⟩]

theorem run_forM_push_cons :
    ((rule :: l).forM push).run chain =
      match (push rule).run chain with
      | .ok _ next => (l.forM push).run next
      | .error error next => .error error next := by
  rw [List.forM_eq_forM, List.forM_cons, EStateM.run_bind]
  cases (push rule).run chain <;> rfl

/-- Rules are pushed one after the other, if no two gaps are neighbours. -/
theorem forM_push (h : (l' ++ l).IsChain Rule.Separate) :
    (l.forM push).run (rules l') = .ok () (rules (l' ++ l)) := by
  induction l generalizing l' with
  | nil =>
    rw [List.append_nil]
    rfl
  | cons rule l ih =>
    rw [List.append_cons] at h ⊢
    obtain ⟨hbefore, -, -⟩ := List.isChain_append.1 h
    obtain ⟨-, -, hlast⟩ := List.isChain_append.1 hbefore
    have hpush : (push rule).run (rules l') = .ok () (rules (l' ++ [rule])) :=
      push_eq_ok_iff.2 ⟨rfl, fun last hmem => hlast last hmem rule rfl, rfl⟩
    rw [run_forM_push_cons, hpush]
    exact ih h

/-- The steps that add rules build what is made by pushing the rules. -/
theorem foldl_attempt_of_forM_push (hfilled : ∀ rule ∈ l, rule.Filled)
    (h : (l.forM push).run chain = .ok () next) : (l.map Rule.step).foldl attempt chain = next := by
  induction l generalizing chain with
  | nil =>
    cases h
    rfl
  | cons rule l ih =>
    rw [run_forM_push_cons] at h
    rw [List.map_cons, List.foldl_cons, attempt, ← push_eq_apply (hfilled rule List.mem_cons_self)]
    cases hpush : (push rule).run chain with
    | error error pushed =>
      rw [hpush] at h
      cases h
    | ok _ pushed =>
      rw [hpush] at h
      exact ih (fun r hr => hfilled r (List.mem_cons_of_mem _ hr)) h

/-- A chain that looks like one that steps build is one. -/
theorem WellFormed.built (h : chain.WellFormed) : chain.Built := by
  obtain rfl | ⟨l, rfl⟩ := h.eq_nothing_or_rules
  · exact ⟨[.nothing], rfl⟩
  · exact ⟨l.map Rule.step, foldl_attempt_of_forM_push h.filled (forM_push h.separate)⟩

/-- An execution that fails has been stopped by the check, or by an event without canonical form. -/
theorem check_or_firstError_of_execute (hwellFormed : chain.WellFormed) {c : Canonicalizer ε}
    {stream : StreamId} {observed : List ε}
    (h : chain.execute c stream observed = .error error) :
    chain.check = .error error ∨ c.FirstError (chain.requests c observed) error := by
  cases hcheck : chain.check with
  | error e =>
    rw [execute, hcheck] at h
    cases h
    exact .inl rfl
  | ok =>
    have hrules : chain.isNothing = true ∨ chain.toList ≠ [] := by
      by_contra! hnone
      have hempty := hwellFormed.check_eq_error_iff.2
        ⟨rfl, Bool.eq_false_iff.2 hnone.1, hnone.2⟩
      rw [hcheck] at hempty
      cases hempty
    exact .inr (firstError_of_execute hwellFormed hrules h)

theorem check_or_canonical_of_execute (hwellFormed : chain.WellFormed) {c : Canonicalizer ε}
    {stream : StreamId} {observed : List ε}
    (h : chain.execute c stream observed = .error error) :
    chain.check = .error error ∨ ∃ event, c.canonical event = .error error :=
  (check_or_firstError_of_execute hwellFormed h).imp_right fun hfirst =>
    hfirst.exists_mem.imp fun _ hevent => hevent.2

/-- Chains that steps build, where a step that fails is followed by the next one. Each of them has
no rules if it expects no events, no gaps that are neighbours, and no block without events. The next
step fails just if the chain refuses it, and then leaves the chain as it is; otherwise it does what
it asks for, and nothing else. Only a chain without rules does not pass the check before its
execution. In turn, rules without gaps that are neighbours and without empty blocks are pushed one
after the other, and none is refused. -/
theorem build_invariant :
    (∀ steps : List (Step ε),
      ((build steps).isNothing = true → (build steps).toList = []) ∧
      (build steps).toList.IsChain Rule.Separate ∧
      (∀ rule ∈ (build steps).toList, rule.Filled) ∧
      (∀ step error next, (build steps).apply step = .error error next ↔
        (build steps).Refuses step error ∧ next = build steps) ∧
      (∀ step next, (build steps).apply step = .ok () next ↔
        (∀ error, ¬(build steps).Refuses step error) ∧ next = (build steps).extend step) ∧
      (∀ step error, (build steps).Refuses step error →
        build (steps ++ [step]) = build steps) ∧
      (∀ step, (∀ error, ¬(build steps).Refuses step error) →
        build (steps ++ [step]) = (build steps).extend step) ∧
      (∀ rule, rule.Filled → (push rule).run (build steps) = (build steps).apply rule.step) ∧
      (∀ error, (build steps).check = .error error ↔
        error = .emptyChain ∧ (build steps).isNothing = false ∧ (build steps).toList = []) ∧
      ∀ (c : Canonicalizer ε) stream observed error,
        (build steps).execute c stream observed = .error error →
          (build steps).check = .error error ∨ ∃ event, c.canonical event = .error error) ∧
    ∀ l : List (Rule ε), l.IsChain Rule.Separate → (∀ rule ∈ l, rule.Filled) →
      (l.forM push).run ∅ = .ok () (rules l) ∧ build (l.map Rule.step) = rules l := by
  refine ⟨fun steps => ?_, fun l hseparate hfilled => ?_⟩
  · have hwellFormed := build_wellFormed steps
    refine ⟨hwellFormed.alone, hwellFormed.separate, hwellFormed.filled,
      fun _ _ _ => hwellFormed.apply_eq_error_iff, fun _ _ => hwellFormed.apply_eq_ok_iff,
      fun step error h => ?_, fun step h => ?_, fun _ => push_eq_apply, fun _ =>
      hwellFormed.check_eq_error_iff, fun _ _ _ _ => check_or_canonical_of_execute hwellFormed⟩
    · rw [build_append_singleton, hwellFormed.attempt_of_refuses h]
    · rw [build_append_singleton, hwellFormed.attempt_of_not_refuses h]
  · have hpush : (l.forM push).run ∅ = .ok () (rules l) := @forM_push _ l [] hseparate
    exact ⟨hpush, foldl_attempt_of_forM_push hfilled hpush⟩

end Chain

end GivenWhenThen
