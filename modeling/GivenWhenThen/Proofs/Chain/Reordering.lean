import GivenWhenThen.Proofs.Chain.Exclusion
import GivenWhenThen.Proofs.Chain.Refusal
import GivenWhenThen.Proofs.Chain.Separated

/-! Blocks in any order whose expected events are listed in another order. The listed order decides
which of several equal events is taken first, and so which one is reported missing, but nothing
else: `MissedAt.perm` says so for one place, `FailsWith.reordered` for all rules, and
`execute_reordered` for the outcomes of two executions. A chain of one such block does not depend on
the order of the observed events either. -/

namespace GivenWhenThen

variable {ε : Type}

/-- A block, and the same block with the expected events in another order if it takes any. -/
inductive Block.Reordered : Block ε → Block ε → Prop
  | same {b : Block ε} : Reordered b b
  | any {events events' : List ε} (perm : events.Perm events') :
      Reordered ⟨.any, events⟩ ⟨.any, events'⟩

abbrev Rule.Reordered : Rule ε → Rule ε → Prop := Rule.Related Block.Reordered

abbrev Chain.Reordered : Chain ε → Chain ε → Prop := Chain.Related Block.Reordered

/-- A mismatch, and the same mismatch where a block in any order shows its expected events in
another order. Of the miss, only the index of a missing expected event can differ. -/
inductive Mismatch.Reordered : Mismatch → Mismatch → Prop
  | same {mismatch : Mismatch} : Reordered mismatch mismatch
  | missed {expected expected' : List Canonical} {miss : Miss} (perm : expected.Perm expected') :
      Reordered (.missed .any expected miss) (.missed .any expected' miss)
  | notFound {expected expected' : List Canonical} {index index' : Nat}
      (perm : expected.Perm expected') :
      Reordered (.missed .any expected (.notFound index))
        (.missed .any expected' (.notFound index'))

/-! ### One place -/

namespace Order

variable {α : Type} {expected expected' published : List α} {start first : Nat}

theorem StandsAt.perm (hperm : expected.Perm expected')
    (h : any.StandsAt expected published start) : any.StandsAt expected' published start := by
  obtain ⟨hlen, hfits⟩ := h
  rw [hperm.length_eq] at hlen hfits
  exact ⟨hlen, hfits.trans hperm⟩

theorem FirstStandsAt.perm {m : Nat} (hperm : expected.Perm expected')
    (h : any.FirstStandsAt expected published first m) :
    any.FirstStandsAt expected' published first m := by
  obtain ⟨hle, hstands, hbefore⟩ := h
  refine ⟨hle, hstands.perm hperm, ?_⟩
  intro j hge hlt hj
  exact hbefore j hge hlt (hj.perm hperm.symm)

/-- A published event that does not belong to the block is found in any order of the expected ones.
Without one, some expected event is missing in each order. -/
theorem MissedAt.perm [DecidableEq α] {miss : Miss} (hne : expected ≠ [])
    (hperm : expected.Perm expected') (h : MissedAt expected published start any miss) :
    ∃ miss', MissedAt expected' published start any miss' ∧
      (miss' = miss ∨ ∃ index index', miss = .notFound index ∧ miss' = .notFound index') := by
  cases h with
  | surplus inside before here =>
    refine ⟨_, .surplus (hperm.length_eq ▸ inside) (before.trans hperm.subperm) ?_, .inl rfl⟩
    intro hsub
    exact here (hsub.trans hperm.symm.subperm)
  | lacking contained here more before =>
    have hne' : expected' ≠ [] := by
      rintro rfl
      exact hne hperm.eq_nil
    cases hmiss : any.missAt expected' published start with
    | none =>
      have hstands := (missAt_eq_none_iff hne').1 hmiss
      exact absurd (hstands.perm hperm.symm)
        (MissedAt.lacking contained here more before).not_standsAt
    | some miss' =>
      refine ⟨miss', missedAt_of_missAt hmiss, .inr ?_⟩
      cases missedAt_of_missAt hmiss with
      | surplus _ _ here' =>
        have hsub := contained.trans hperm.subperm
        exact absurd ((List.take_sublist _ _).subperm.trans hsub) here'
      | lacking => exact ⟨_, _, rfl, rfl⟩

end Order

namespace Block.Reordered

variable {b b' : Block ε} {form : ε → Canonical} {observed : List ε} {cursor start : Nat}

theorem symm (h : b.Reordered b') : b'.Reordered b := by
  cases h with
  | same => exact .same
  | any perm => exact .any perm.symm

theorem perm (h : b.Reordered b') : b.events.Perm b'.events := by
  cases h with
  | same => exact .refl _
  | any perm => exact perm

theorem ne_nil (h : b.Reordered b') (hne : b.events ≠ []) : b'.events ≠ [] := by
  intro hnil
  have hperm := h.perm
  rw [hnil] at hperm
  exact hne hperm.eq_nil

theorem standsAt (h : b.Reordered b')
    (hstands : b.order.StandsAt (b.events.map form) (observed.map form) start) :
    b'.order.StandsAt (b'.events.map form) (observed.map form) start := by
  cases h with
  | same => exact hstands
  | any perm => exact hstands.perm (perm.map form)

theorem firstStandsAt (h : b.Reordered b')
    (hfirst : b.order.FirstStandsAt (b.events.map form) (observed.map form) cursor start) :
    b'.order.FirstStandsAt (b'.events.map form) (observed.map form) cursor start := by
  cases h with
  | same => exact hfirst
  | any perm => exact hfirst.perm (perm.map form)

theorem missed (h : b.Reordered b') (miss : Miss) :
    Mismatch.Reordered (.missed b.order (b.events.map form) miss)
      (.missed b'.order (b'.events.map form) miss) := by
  cases h with
  | same => exact .same
  | any perm => exact .missed (perm.map form)

theorem missedAt {miss : Miss} (hne : b.events ≠ []) (h : b.Reordered b')
    (hmissed : b.order.MissedAt (b.events.map form) (observed.map form) cursor miss) :
    ∃ miss', b'.order.MissedAt (b'.events.map form) (observed.map form) cursor miss' ∧
      Mismatch.Reordered (.missed b.order (b.events.map form) miss)
        (.missed b'.order (b'.events.map form) miss') := by
  cases h with
  | same => exact ⟨miss, hmissed, .same⟩
  | @any events _ perm =>
    have hne' : events.map form ≠ [] := by simpa using hne
    obtain ⟨miss', hmissed', rfl | ⟨index, index', rfl, rfl⟩⟩ :=
      hmissed.perm hne' (perm.map form)
    · exact ⟨_, hmissed', .missed (perm.map form)⟩
    · exact ⟨_, hmissed', .notFound (perm.map form)⟩

end Block.Reordered

/-! ### One rule -/

variable {form : ε → Canonical} {observed : List ε} {rule rule' : Rule ε}
  {previous previous' : Option (Rule ε)} {mismatch : Mismatch} {cursor next : Nat}
  {l l' : List (Rule ε)}

theorem Rule.Reordered.symm (h : rule.Reordered rule') :
    rule'.Reordered rule := by
  cases h with
  | block reordered => exact .block reordered.symm
  | gap => exact .gap

theorem Passes.reordered (hprevious : Option.Rel Rule.Reordered previous previous')
    (hrule : rule.Reordered rule') (h : Passes form observed previous cursor rule next) :
    Passes form observed previous' cursor rule' next := by
  have hgap := previous_gap_iff hprevious
  cases h with
  | gap =>
    cases hrule
    exact .gap
  | anchored tied stands =>
    obtain ⟨reordered⟩ := hrule
    rw [reordered.perm.length_eq]
    exact .anchored (tied_of_related hprevious tied) (reordered.standsAt stands)
  | searched first free =>
    obtain ⟨reordered⟩ := hrule
    rw [reordered.perm.length_eq, (hgap _).1 rfl]
    exact .searched (reordered.firstStandsAt first) free

theorem Blocks.reordered (hprevious : Option.Rel Rule.Reordered previous previous')
    (hrule : rule.Reordered rule') (hfilled : rule.Filled)
    (h : Blocks form observed previous cursor rule mismatch) :
    ∃ mismatch', Blocks form observed previous' cursor rule' mismatch' ∧
      mismatch.Reordered mismatch' := by
  have hgap := previous_gap_iff hprevious
  cases h with
  | anchored tied missed =>
    obtain ⟨reordered⟩ := hrule
    obtain ⟨miss', hmissed, hmismatch⟩ := reordered.missedAt hfilled missed
    exact ⟨_, .anchored (tied_of_related hprevious tied) hmissed, hmismatch⟩
  | absent nowhere inside =>
    obtain ⟨reordered⟩ := hrule
    rw [(hgap _).1 rfl]
    refine ⟨_, .absent ?_ inside, reordered.missed _⟩
    intro j hj hstands
    exact nowhere j hj (reordered.symm.standsAt hstands)
  | exhausted ended =>
    obtain ⟨reordered⟩ := hrule
    rw [(hgap _).1 rfl]
    exact ⟨_, .exhausted ended, reordered.missed _⟩
  | excluded first hit =>
    obtain ⟨reordered⟩ := hrule
    rw [(hgap _).1 rfl]
    exact ⟨_, .excluded (reordered.firstStandsAt first) hit, .same⟩

theorem Leaves.reordered (hrule : rule.Reordered rule')
    (h : Leaves form observed cursor rule mismatch) :
    ∃ mismatch', Leaves form observed cursor rule' mismatch' ∧ mismatch.Reordered mismatch' := by
  cases h with
  | trailing left =>
    obtain ⟨reordered⟩ := hrule
    exact ⟨_, .trailing left, reordered.missed _⟩
  | excluded hit =>
    cases hrule
    exact ⟨_, .excluded hit, .same⟩

/-! ### All rules -/

section Rules

variable {cursor : Nat → Nat} (halike : List.Forall₂ Rule.Reordered l l')
include halike

theorem Placed.reordered (h : Placed form l observed cursor) : Placed form l' observed cursor :=
  h.of_forall₂ halike fun _ _ _ _ _ _ hrule hprevious hpasses => hpasses.reordered hprevious hrule

theorem FailsWith.reordered (hfilled : ∀ rule ∈ l, rule.Filled)
    (h : FailsWith form l observed mismatch) :
    ∃ mismatch', FailsWith form l' observed mismatch' ∧ mismatch.Reordered mismatch' := by
  cases h with
  | @atRule i rule _ here placed blocks =>
    obtain ⟨rule', hhere, hrule⟩ := exists_of_some_rel (here ▸ getElem?_of_forall₂ halike i)
    have hbefore := List.forall₂_take i halike
    obtain ⟨mismatch', hblocks, hmismatch⟩ := blocks.reordered (getLast?_of_forall₂ hbefore) hrule
      (hfilled rule (List.mem_of_getElem? here))
    exact ⟨mismatch', .atRule hhere (placed.reordered hbefore) hblocks, hmismatch⟩
  | @atEnd rule _ last placed leaves =>
    obtain ⟨rule', hlast, hrule⟩ := exists_of_some_rel (last ▸ getLast?_of_forall₂ halike)
    rw [halike.length_eq] at leaves
    obtain ⟨mismatch', hleaves, hmismatch⟩ := leaves.reordered hrule
    exact ⟨mismatch', .atEnd hlast (placed.reordered halike) hleaves, hmismatch⟩

end Rules

theorem forall₂_reordered_symm (h : List.Forall₂ Rule.Reordered l l') :
    List.Forall₂ Rule.Reordered l' l := by
  induction h with
  | nil => exact .nil
  | cons hrule _ ih => exact .cons hrule.symm ih

namespace Chain

variable {chain chain' : Chain ε} {c : Canonicalizer ε} {stream : StreamId}

theorem covers_of_reordered (halike : List.Forall₂ Rule.Reordered l l')
    (h : c.Covers (rules l).expected) : c.Covers (rules l').expected := by
  induction halike with
  | nil => exact h
  | cons hrule _ ih =>
    have hrest := ih (h.mono fun e he => List.mem_append_right _ he)
    have hhead := h.mono fun e he => List.mem_append_left _ he
    cases hrule with
    | gap => exact hrest
    | block reordered => exact (hhead.mono fun e he => reordered.perm.mem_iff.2 he).append hrest

theorem WellFormed.reordered (halike : List.Forall₂ Rule.Reordered l l')
    (h : (rules l).WellFormed) : (rules l').WellFormed :=
  h.of_related halike fun _ _ hblock => hblock.ne_nil

/-- A single block in any order takes the events that are a permutation of its own. -/
theorem verdict_any_eq_ok_iff {events : List ε} (hne : events ≠ []) :
    Position.verdict form observed {} [.block ⟨.any, events⟩] = .ok () ↔
      (observed.map form).Perm (events.map form) := by
  have hfilled : (Rule.block ⟨.any, events⟩).Filled := hne
  have hfinish : ∀ next, Position.verdict form observed ⟨some (.block ⟨.any, events⟩), next⟩ [] =
      .ok () ↔ observed.length ≤ next := by
    intro next
    have hverdict : Position.verdict form observed ⟨some (.block ⟨.any, events⟩), next⟩ [] =
        Position.finish form observed ⟨some (.block ⟨.any, events⟩), next⟩ := rfl
    rw [hverdict, Position.finish_eq_ok_iff]
    simp
  have hpasses : ∀ next, Passes form observed none 0 (.block ⟨.any, events⟩) next ↔
      Order.any.StandsAt (events.map form) (observed.map form) 0 ∧ next = 0 + events.length :=
    fun _ => passes_block_iff_of_tied (by simp)
  simp only [Position.verdict_cons_eq_ok_iff hfilled, hfinish, hpasses]
  constructor
  · rintro ⟨_, ⟨⟨-, hfits⟩, rfl⟩, hle⟩
    have hall : (observed.map form).length ≤ (events.map form).length := by
      simp only [List.length_map]
      omega
    rwa [List.drop_zero, List.take_of_length_le hall] at hfits
  · intro hperm
    have hlength := hperm.length_eq
    refine ⟨_, ⟨⟨by omega, ?_⟩, rfl⟩, ?_⟩
    · rw [List.drop_zero, ← hlength, List.take_length]
      exact hperm
    · simp only [List.length_map] at hlength
      omega

theorem accepts_of_perm {events observed' : List ε}
    (hw : (rules [.block ⟨.any, events⟩]).WellFormed)
    (hexpected : c.Covers (rules [.block ⟨.any, events⟩]).expected) (hobserved : c.Covers observed)
    (hperm : observed.Perm observed') :
    (rules [.block ⟨.any, events⟩]).Accepts c stream observed ↔
      (rules [.block ⟨.any, events⟩]).Accepts c stream observed' := by
  have hne : events ≠ [] := hw.filled (.block ⟨.any, events⟩) (by simp)
  have hobserved' : c.Covers observed' := hobserved.mono fun e he => hperm.mem_iff.2 he
  rw [accepts_iff hw (List.cons_ne_nil _ _) hexpected hobserved,
    accepts_iff hw (List.cons_ne_nil _ _) hexpected hobserved', verdict_any_eq_ok_iff hne,
    verdict_any_eq_ok_iff hne]
  exact (hperm.map c.form).congr_left _

/-- Two chains that list the expected events of blocks in any order in different orders. Both accept
the same, and a mismatch of one is a mismatch of the other that may show another list and, of a
missing expected event, another index. A chain of one such block accepts the observed events in any
order if it accepts them in one. -/
theorem execute_reordered (stream : StreamId) (hbuilt : chain.Built) (h : chain.Reordered chain')
    (hexpected : c.Covers chain.expected) (hobserved : c.Covers observed) :
    chain'.Built ∧
    ((chain = ∅ ∧ chain' = ∅ ∧ chain.execute c stream observed = .error .emptyChain ∧
        chain'.execute c stream observed = .error .emptyChain) ∨
      ∃ outcome outcome', chain.execute c stream observed = .ok outcome ∧
        chain'.execute c stream observed = .ok outcome' ∧
        (outcome.isSuccess = true ↔ outcome'.isSuccess = true) ∧
        ∀ mismatch, outcome.mismatch? = some mismatch →
          ∃ mismatch', outcome'.mismatch? = some mismatch' ∧ mismatch.Reordered mismatch') ∧
    ∀ events observed', chain = rules [.block ⟨.any, events⟩] → observed.Perm observed' →
      (chain.Accepts c stream observed ↔ chain.Accepts c stream observed') := by
  have hw := hbuilt.wellFormed
  cases h with
  | nothing =>
    have hexecute : nothing.execute c stream observed = _ :=
      execute_nothing.trans (conclude_of_covers hobserved)
    exact ⟨hbuilt, .inr ⟨_, _, hexecute, hexecute, .rfl, fun m hm => ⟨m, hm, .same⟩⟩, nofun⟩
  | @rules l l' halike =>
    refine ⟨(hw.reordered halike).built, ?_, ?_⟩
    · by_cases hne : l = []
      · subst hne
        cases halike
        exact .inl ⟨rfl, rfl, rfl, rfl⟩
      have hne' : l' ≠ [] := by
        rintro rfl
        cases halike
        exact hne rfl
      have hw' := hw.reordered halike
      obtain ⟨outcome, hexecute⟩ := execute_isOk stream hw hne hexpected hobserved
      obtain ⟨outcome', hexecute'⟩ :=
        execute_isOk stream hw' hne' (covers_of_reordered halike hexpected) hobserved
      have hfails := mismatch?_iff_failsWith hw hexecute
      have hfails' := mismatch?_iff_failsWith hw' hexecute'
      refine .inr ⟨outcome, outcome', hexecute, hexecute', ⟨?_, ?_⟩, ?_⟩
      · refine Outcome.isSuccess_of_counterpart fun mismatch' hm' => ?_
        obtain ⟨mismatch, hm, -⟩ :=
          ((hfails' mismatch').1 hm').reordered (forall₂_reordered_symm halike) hw'.filled
        exact ⟨mismatch, (hfails mismatch).2 hm⟩
      · refine Outcome.isSuccess_of_counterpart fun mismatch hm => ?_
        obtain ⟨mismatch', hm', -⟩ := ((hfails mismatch).1 hm).reordered halike hw.filled
        exact ⟨mismatch', (hfails' mismatch').2 hm'⟩
      · intro mismatch hm
        obtain ⟨mismatch', hm', hreordered⟩ :=
          ((hfails mismatch).1 hm).reordered halike hw.filled
        exact ⟨mismatch', (hfails' mismatch').2 hm', hreordered⟩
    · rintro events observed' ⟨⟩ hperm
      exact accepts_of_perm hw hexpected hobserved hperm

/-- Without a withdrawal, both lists of the expected events lack one. With it, the block accepts the
two events in either order. -/
theorem execute_reordered_withdrawn :
    (∃ outcome expected index,
      (rules [.block ⟨.any, [Bank.Event.withdrawn 7, .deposited 10]⟩]).execute .byLabel "acc-1"
        [.deposited 1] = .ok outcome ∧
      outcome.mismatch? = some (.missed .any expected (.notFound index))) ∧
    (rules [.block ⟨.any, [Bank.Event.deposited 10, .withdrawn 7]⟩]).Accepts .byLabel "acc-1"
      [.withdrawn 5, .deposited 1] := by
  have hbuilt : (rules [.block ⟨.any, [Bank.Event.deposited 10, .withdrawn 7]⟩]).Built :=
    ⟨[.block .any [.deposited 10, .withdrawn 7]], rfl⟩
  have hreordered : (rules [.block ⟨.any, [Bank.Event.deposited 10, .withdrawn 7]⟩]).Reordered
      (rules [.block ⟨.any, [Bank.Event.withdrawn 7, .deposited 10]⟩]) :=
    .rules (.cons (.block (.any (.swap _ _ _))) .nil)
  have hcovers : ∀ events : List Bank.Event, Canonicalizer.byLabel.Covers events :=
    fun _ _ _ => ⟨_, rfl⟩
  constructor
  · obtain ⟨-, ⟨⟨⟩, -⟩ | ⟨outcome, outcome', hexecute, hexecute', -, hmismatch⟩, -⟩ :=
      execute_reordered "acc-1" hbuilt hreordered (hcovers _) (hcovers [.deposited 1])
    cases hexecute
    obtain ⟨mismatch', hmismatch', hlists⟩ := hmismatch _ rfl
    cases hlists with
    | same | missed | notFound => exact ⟨outcome', _, _, hexecute', hmismatch'⟩
  · obtain ⟨-, -, hperm⟩ := execute_reordered "acc-1" hbuilt hreordered (hcovers _)
      (hcovers [.deposited 1, .withdrawn 5])
    exact (hperm _ _ rfl (.swap _ _ _)).1 ⟨_, rfl, rfl⟩

end Chain

end GivenWhenThen
