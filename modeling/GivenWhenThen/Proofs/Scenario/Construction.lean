import GivenWhenThen.Proofs.Chain.Refusal
import GivenWhenThen.Proofs.Scenario.Projection

/-! Errors of building a scenario. A clause about a stream without a chain makes one without rules,
which no execution could take, before its step adds the first rule. By `executable_of_build` such a
chain stays only where the step failed, and then the scenario holds an error, which is a
construction error by `isConstruction_of_build`. -/

namespace GivenWhenThen

variable {ε κ χ ς : Type}

/-! ### Chains that can be executed -/

namespace Chain

/-- The chain expects nothing and has no rules, or it has rules, no two neighbours of which are
gaps, and no block without events. -/
def Executable (chain : Chain ε) : Prop :=
  chain.isNothing = true ∧ chain.toList = [] ∨
  chain.isNothing = false ∧ chain.toList ≠ [] ∧ chain.toList.IsChain Rule.Separate ∧
    ∀ rule ∈ chain.toList, rule.Filled

variable {chain next : Chain ε} {step : Step ε} {error : Error}

theorem Executable.wellFormed (h : chain.Executable) : chain.WellFormed := by
  rcases h with ⟨-, hnil⟩ | ⟨hnothing, -, hseparate, hfilled⟩
  · refine ⟨fun _ => hnil, ?_, ?_⟩
    · rw [hnil]
      exact .nil
    · simp [hnil]
  · refine ⟨fun hsome => ?_, hseparate, hfilled⟩
    rw [hnothing] at hsome
    cases hsome

theorem Executable.check (h : chain.Executable) : chain.check = .ok () := by
  refine h.wellFormed.check_isOk ?_
  rcases h with ⟨hnothing, -⟩ | ⟨-, hne, -⟩
  · exact .inl hnothing
  · exact .inr hne

theorem WellFormed.executable_of_apply (h : chain.WellFormed)
    (happly : chain.apply step = .ok () next) : next.Executable := by
  have hnext : next.WellFormed := h.apply happly
  have hextend : next = chain.extend step := eq_extend_of_apply happly
  rw [extend] at hextend
  cases hrule : step.rule? with
  | none =>
    rw [hrule] at hextend
    subst hextend
    exact .inl ⟨rfl, hnext.alone rfl⟩
  | some rule =>
    rw [hrule] at hextend
    subst hextend
    have hne : chain.toList ++ [rule] ≠ [] := by simp
    exact .inr ⟨hnext.isNothing_eq_false hne, hne, hnext.separate, hnext.filled⟩

theorem isConstruction_of_apply (h : chain.apply step = .error error next) :
    error.isConstruction = true := by
  cases refuses_of_apply h <;> rfl

end Chain

/-! ### Clauses -/

theorem Target.isConstruction_of_resolve {target : Target} {home : Option StreamId} {error : Error}
    (h : target.resolve home = .error error) : error.isConstruction = true := by
  cases target with
  | named id => cases h
  | default method =>
    cases home with
    | some id => cases h
    | none =>
      cases h
      rfl

theorem Clause.isConstruction_of_error? [PatternEngine] {clause : Clause ε κ χ ς}
    {home : Option StreamId} {chain : StreamId → Chain ε} {error : Error}
    (h : clause.error? home chain = some error) :
    error.isConstruction = true := by
  cases clause with
  | given target events =>
    rw [error?, failure?_eq_some_iff] at h
    exact Target.isConstruction_of_resolve h
  | expect target step =>
    rw [error?] at h
    split at h
    · obtain ⟨next, happly⟩ := Chain.refusal?_eq_some_iff.1 h
      exact Chain.isConstruction_of_apply happly
    · next hresolve =>
      cases h
      exact Target.isConstruction_of_resolve hresolve
  | faultPattern source =>
    rw [error?] at h
    split at h
    · cases h
    · cases h
      rfl
  | arrange | command | check | fault => cases h

/-- A clause that asks for a step and does not fail applies the step. -/
theorem Clause.exists_apply_of_step? [PatternEngine] {clause : Clause ε κ χ ς}
    {home : Option StreamId} {chain : StreamId → Chain ε} {id : StreamId} {step : Chain.Step ε}
    (hstep : clause.step? home = some (id, step)) (herror : clause.error? home chain = none) :
    ∃ next, (chain id).apply step = .ok () next := by
  cases clause with
  | expect target asked =>
    rw [step?] at hstep
    rw [error?] at herror
    cases hresolve : target.resolve home with
    | error error =>
      rw [hresolve] at hstep
      cases hstep
    | ok stream =>
      rw [hresolve] at hstep herror
      cases hstep
      exact Chain.refusal?_eq_none_iff.1 herror
  | given | arrange | command | check | fault | faultPattern => cases hstep

/-! ### Scenarios -/

namespace Scenario

variable {home : Option StreamId} {clauses : List (Clause ε κ χ ς)} {clause : Clause ε κ χ ς}

theorem mem_setChain {id : StreamId} {chain : Chain ε} {chains : List (StreamId × Chain ε)}
    {entry : StreamId × Chain ε} (h : entry ∈ setChain id chain chains) :
    entry = (id, chain) ∨ entry ∈ chains := by
  induction chains with
  | nil => exact .inl (List.mem_singleton.1 h)
  | cons head chains ih =>
    rw [setChain] at h
    split_ifs at h with heq
    · rcases List.mem_cons.1 h with rfl | h
      · exact .inl (by rw [heq])
      · exact .inr (List.mem_cons_of_mem _ h)
    · rcases List.mem_cons.1 h with rfl | h
      · exact .inr List.mem_cons_self
      · exact (ih h).imp_right (List.mem_cons_of_mem _)

variable [PatternEngine]

theorem wellFormed_chain_build (id : StreamId) : ((build home clauses).chain id).WellFormed := by
  rw [(describes_build home clauses).chain_eq]
  exact Chain.build_wellFormed _

/-- A clause that does not fail leaves only chains that can be executed, if there were no others. -/
theorem executable_add
    (h : ∀ entry ∈ (build home clauses).chains, entry.2.Executable)
    (herror : clause.error? home (build home clauses).chain = none) :
    ∀ entry ∈ ((build home clauses).add clause).chains, entry.2.Executable := by
  intro entry hentry
  simp only [add_eq, (describes_build home clauses).stream] at hentry
  cases hstep : clause.step? home with
  | none =>
    rw [hstep] at hentry
    exact h entry hentry
  | some asked =>
    obtain ⟨id, step⟩ := asked
    rw [hstep] at hentry
    rcases mem_setChain hentry with rfl | hentry
    · obtain ⟨next, happly⟩ := Clause.exists_apply_of_step? hstep herror
      rw [show ((build home clauses).chain id).attempt step = next by rw [Chain.attempt, happly]]
      exact (wellFormed_chain_build id).executable_of_apply happly
    · exact h entry hentry

/-- Where building a scenario has not failed, each of its chains can be executed. -/
theorem executable_of_build (h : (build home clauses).error = none) :
    ∀ entry ∈ (build home clauses).chains, entry.2.Executable := by
  induction clauses using List.reverseRecOn with
  | nil => cases home <;> exact nofun
  | append_singleton clauses clause ih =>
    rw [build_append_singleton] at h ⊢
    rw [add_eq, Option.or_eq_none_iff, (describes_build home clauses).stream] at h
    exact executable_add (ih h.1) h.2

theorem isConstruction_of_build {error : Error} (h : (build home clauses).error = some error) :
    error.isConstruction = true := by
  rw [(describes_build home clauses).error] at h
  obtain ⟨⟨clause, index⟩, -, hclause⟩ := List.mem_filterMap.1 (List.mem_of_head? h)
  exact Clause.isConstruction_of_error? hclause

end Scenario

end GivenWhenThen
