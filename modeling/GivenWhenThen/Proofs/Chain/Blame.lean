import GivenWhenThen.Proofs.Chain.Exclusion

/-! The rule at which a walk ends. `Blames` is `FailsWith` with the index of this rule. `StopsAt`
says the same by following the machine from rule to rule, so that proofs on the end of a walk are
inductions on the rules before it. `Blames.stopsAt` leads from the one to the other, and a mismatch
of an execution has a rule to blame by `mismatch?_eq_some_iff_blames`. -/

namespace GivenWhenThen

variable {ε : Type}

/-- The walk ends with the mismatch at the rule with index `i`: there, or behind it if it is the
last one. -/
inductive Blames (form : ε → Canonical) (rules : List (Rule ε)) (observed : List ε) (i : Nat)
    (mismatch : Mismatch) : Prop
  | atRule {rule : Rule ε} {cursor : Nat → Nat} (here : rules[i]? = some rule)
      (placed : Placed form (rules.take i) observed cursor)
      (blocks : Blocks form observed (rules.take i).getLast? (cursor i) rule mismatch)
  | atEnd {rule : Rule ε} {cursor : Nat → Nat} (last : rules.length = i + 1)
      (here : rules[i]? = some rule) (placed : Placed form rules observed cursor)
      (leaves : Leaves form observed (cursor (i + 1)) rule mismatch)

variable {form : ε → Canonical} {observed : List ε} {rule : Rule ε} {rules l l' : List (Rule ε)}
  {i : Nat} {mismatch : Mismatch}

theorem failsWith_iff_exists_blames :
    FailsWith form rules observed mismatch ↔ ∃ i, Blames form rules observed i mismatch := by
  constructor
  · rintro (⟨here, placed, blocks⟩ | @⟨rule, _, last, placed, leaves⟩)
    · exact ⟨_, .atRule here placed blocks⟩
    · have hpos : 0 < rules.length := List.length_pos_of_mem (List.mem_of_getLast? last)
      have hlength : rules.length = rules.length - 1 + 1 := by omega
      rw [List.getLast?_eq_getElem?] at last
      rw [hlength] at leaves
      exact ⟨_, .atEnd hlength last placed leaves⟩
  · rintro ⟨i, ⟨here, placed, blocks⟩ | ⟨last, here, placed, leaves⟩⟩
    · exact .atRule here placed blocks
    · have hlast : rules.getLast? = rules[i]? := by
        rw [List.getLast?_eq_getElem?, last]
        rfl
      exact .atEnd (hlast.trans here) placed (last ▸ leaves)

namespace Position

/-- The walk over the rules from a position on ends with the mismatch at the rule with index `i`. -/
inductive StopsAt (form : ε → Canonical) (observed : List ε) :
    Position ε → List (Rule ε) → (i : Nat) → Mismatch → Prop
  | here {p : Position ε} {rule : Rule ε} {rules : List (Rule ε)} {mismatch : Mismatch}
      (blocked : p.step form observed rule = .error mismatch) :
      StopsAt form observed p (rule :: rules) 0 mismatch
  | behind {p next : Position ε} {rule : Rule ε} {mismatch : Mismatch}
      (taken : p.step form observed rule = .ok next)
      (left : next.finish form observed = .error mismatch) :
      StopsAt form observed p [rule] 0 mismatch
  | later {p next : Position ε} {rule : Rule ε} {rules : List (Rule ε)} {i : Nat}
      {mismatch : Mismatch} (taken : p.step form observed rule = .ok next)
      (rest : StopsAt form observed next rules i mismatch) :
      StopsAt form observed p (rule :: rules) (i + 1) mismatch

variable {p q next : Position ε}

theorem run_cons_of_step (h : p.step form observed rule = .ok next) :
    p.run form observed (rule :: rules) = next.run form observed rules := by
  rw [run, List.foldlM_cons, h]
  rfl

/-- Where a walk ends, it ends with its verdict. -/
theorem StopsAt.verdict_eq (h : StopsAt form observed p rules i mismatch) :
    p.verdict form observed rules = .error mismatch := by
  induction h with
  | here blocked =>
    rw [verdict_cons, blocked]
    rfl
  | behind taken left =>
    rw [verdict_cons, taken]
    exact left
  | later taken _ ih =>
    rw [verdict_cons, taken]
    exact ih

theorem StopsAt.ne_nil (h : StopsAt form observed p rules i mismatch) : rules ≠ [] := by
  cases h <;> exact List.cons_ne_nil _ _

/-- Behind rules that a walk comes through, it ends where it ends from there on. -/
theorem StopsAt.append (hrun : p.run form observed l = .ok q)
    (h : StopsAt form observed q l' i mismatch) :
    StopsAt form observed p (l ++ l') (l.length + i) mismatch := by
  induction l generalizing p with
  | nil =>
    cases hrun
    rw [List.length_nil, Nat.zero_add]
    exact h
  | cons rule l ih =>
    rw [run, List.foldlM_cons] at hrun
    obtain ⟨next, hstep, hrun⟩ := bind_eq_ok_iff.1 hrun
    have hlength : (rule :: l).length + i = l.length + i + 1 := by
      rw [List.length_cons]
      omega
    rw [hlength]
    exact .later hstep (ih hrun)

/-- A walk over two lists of rules ends in the first one, or comes through it and ends in the
second one. -/
theorem StopsAt.of_append (hne : l' ≠ []) (h : StopsAt form observed p (l ++ l') i mismatch) :
    (i < l.length ∧ p.run form observed l = .error mismatch) ∨
      ∃ q j, p.run form observed l = .ok q ∧ i = l.length + j ∧
        StopsAt form observed q l' j mismatch := by
  induction l generalizing p i with
  | nil => exact .inr ⟨p, i, rfl, by simp, h⟩
  | cons rule l ih =>
    rw [List.cons_append] at h
    generalize hrules : l ++ l' = rules at h
    cases h with
    | here blocked =>
      refine .inl ⟨by simp, ?_⟩
      rw [run, List.foldlM_cons, blocked]
      rfl
    | behind taken left => exact absurd (List.append_eq_nil_iff.1 hrules).2 hne
    | later taken rest =>
      subst hrules
      rw [run_cons_of_step taken]
      rcases ih rest with ⟨hlt, hrun⟩ | ⟨q, j, hrun, rfl, hstops⟩
      · exact .inl ⟨by simpa using hlt, hrun⟩
      · exact .inr ⟨q, j, hrun, by rw [List.length_cons]; omega, hstops⟩

end Position

/-- The walk ends at the rule to blame. -/
theorem Blames.stopsAt (hfilled : ∀ rule ∈ rules, rule.Filled)
    (h : Blames form rules observed i mismatch) :
    Position.StopsAt form observed {} rules i mismatch := by
  have hbefore : ∀ rule ∈ rules.take i, rule.Filled := fun rule hrule =>
    hfilled rule (List.mem_of_mem_take hrule)
  cases h with
  | @atRule rule cursor here placed blocks =>
    obtain ⟨hi, rfl⟩ := List.getElem?_eq_some_iff.1 here
    have hlength : (rules.take i).length = i := List.length_take_of_le hi.le
    have hrun := (Position.run_eq_ok_iff hbefore).2 ⟨cursor, placed, rfl⟩
    have hblocked : Position.StopsAt form observed
        ⟨(rules.take i).getLast?, cursor (rules.take i).length⟩
        (rules[i] :: rules.drop (i + 1)) 0 mismatch := by
      rw [hlength]
      exact .here ((Position.step_eq_error_iff (hfilled _ (List.getElem_mem hi))
        (placed.le_length hlength.ge)).2 blocks)
    have hstops := Position.StopsAt.append hrun hblocked
    rwa [List.getElem_cons_drop, List.take_append_drop, hlength] at hstops
  | @atEnd rule cursor last here placed leaves =>
    obtain ⟨hi, rfl⟩ := List.getElem?_eq_some_iff.1 here
    have hlength : (rules.take i).length = i := List.length_take_of_le hi.le
    have hrules : rules.take i ++ [rules[i]] = rules := by
      rw [List.take_append_getElem, List.take_of_length_le last.le]
    have hrun := (Position.run_eq_ok_iff hfilled).2 ⟨cursor, placed, rfl⟩
    have hleft : Position.finish form observed ⟨rules.getLast?, cursor rules.length⟩ =
        .error mismatch := by
      refine Position.finish_eq_error_iff.2 ⟨rules[i], ?_, last ▸ leaves⟩
      rw [List.getLast?_eq_getElem?, last]
      exact here
    rw [← hrules, Position.run_append] at hrun
    obtain ⟨q, hrun, hlast⟩ := bind_eq_ok_iff.1 hrun
    obtain ⟨next, htaken, hnext⟩ := bind_eq_ok_iff.1 (List.foldlM_cons.symm.trans hlast)
    cases hnext
    have hstops := Position.StopsAt.append hrun (.behind htaken (hrules.symm ▸ hleft))
    rwa [hrules, hlength] at hstops

namespace Chain

variable {c : Canonicalizer ε} {stream : StreamId} {outcome : Outcome}

/-- An execution ends with a mismatch just if there is a rule to blame for it. -/
theorem mismatch?_eq_some_iff_blames (hw : (Chain.rules l).WellFormed)
    (h : (Chain.rules l).execute c stream observed = .ok outcome) :
    outcome.mismatch? = some mismatch ↔ ∃ i, Blames c.form l observed i mismatch :=
  (mismatch?_iff_failsWith hw h mismatch).trans failsWith_iff_exists_blames

end Chain

end GivenWhenThen
