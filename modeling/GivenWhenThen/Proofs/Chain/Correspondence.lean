import GivenWhenThen.Proofs.Chain.Segmentation

/-! Two chains whose rules correspond to each other, one to one. What holds of all pairs of rules at
one place carries over to the chains: by `Placed.of_forall₂` the cursors of one follow the rules of
the other, and by `Chain.WellFormed.of_forall₂` both can be built. `Chain.Related` is the case that
only blocks differ. -/

namespace GivenWhenThen

section Related

variable {α β : Type} {R : α → β → Prop} {as : List α} {bs : List β}

theorem getElem?_of_forall₂ (h : List.Forall₂ R as bs) (i : Nat) : Option.Rel R as[i]? bs[i]? := by
  induction h generalizing i with
  | nil => exact .none
  | cons hhead _ ih =>
    cases i with
    | zero => exact .some hhead
    | succ i => exact ih i

theorem getLast?_of_forall₂ (h : List.Forall₂ R as bs) : Option.Rel R as.getLast? bs.getLast? := by
  rw [List.getLast?_eq_getElem?, List.getLast?_eq_getElem?, h.length_eq]
  exact getElem?_of_forall₂ h _

theorem exists_of_rel_some {a? : Option α} {b : β} (h : Option.Rel R a? (some b)) :
    ∃ a, a? = some a ∧ R a b := by
  cases h with
  | some h => exact ⟨_, rfl, h⟩

theorem exists_of_some_rel {a : α} {b? : Option β} (h : Option.Rel R (some a) b?) :
    ∃ b, b? = some b ∧ R a b := by
  cases h with
  | some h => exact ⟨_, rfl, h⟩

end Related

variable {ε : Type}

/-- The same gap twice, or two blocks that correspond to each other. -/
inductive Rule.Related (B : Block ε → Block ε → Prop) : Rule ε → Rule ε → Prop
  | block {b b' : Block ε} (related : B b b') : Related B (.block b) (.block b')
  | gap {exclusions : List (Exclusion ε)} : Related B (.gap exclusions) (.gap exclusions)

/-- Two chains that differ in their blocks only, which correspond to each other. -/
inductive Chain.Related (B : Block ε → Block ε → Prop) : Chain ε → Chain ε → Prop
  | nothing : Related B .nothing .nothing
  | rules {l l' : List (Rule ε)} (alike : List.Forall₂ (Rule.Related B) l l') :
      Related B (.rules l) (.rules l')

variable {R : Rule ε → Rule ε → Prop} {B : Block ε → Block ε → Prop} {l l' : List (Rule ε)}
  {rule rule' : Rule ε} {previous previous' : Option (Rule ε)} {form : ε → Canonical}
  {observed : List ε} {cursor : Nat → Nat}

theorem Rule.Related.isGap_eq (h : rule.Related B rule') : rule'.isGap = rule.isGap := by
  cases h <;> rfl

theorem Rule.Related.filled (hfilled : ∀ b b', B b b' → b.events ≠ [] → b'.events ≠ [])
    (h : rule.Related B rule') (hrule : rule.Filled) : rule'.Filled := by
  cases h with
  | block related => exact hfilled _ _ related hrule
  | gap => exact hrule

theorem previous_gap_iff (hprevious : Option.Rel (Rule.Related B) previous previous')
    (exclusions : List (Exclusion ε)) :
    previous = some (.gap exclusions) ↔ previous' = some (.gap exclusions) := by
  cases hprevious with
  | none => simp
  | some hrule => cases hrule <;> simp

theorem tied_of_related (hprevious : Option.Rel (Rule.Related B) previous previous')
    (htied : ∀ exclusions, previous ≠ some (.gap exclusions)) :
    ∀ exclusions, previous' ≠ some (.gap exclusions) := by
  intro exclusions hgap
  exact htied exclusions ((previous_gap_iff hprevious exclusions).2 hgap)

/-- Cursors that follow rules follow those that pass wherever the first ones do. -/
theorem Placed.of_forall₂ (halike : List.Forall₂ R l l')
    (hpasses : ∀ i rule rule' first next, l[i]? = some rule → R rule rule' →
      Option.Rel R (l.take i).getLast? (l'.take i).getLast? →
      Passes form observed (l.take i).getLast? first rule next →
        Passes form observed (l'.take i).getLast? first rule' next)
    (h : Placed form l observed cursor) : Placed form l' observed cursor := by
  refine ⟨h.start, fun i rule' hi => ?_⟩
  obtain ⟨rule, hhere, hrule⟩ := exists_of_rel_some (hi ▸ getElem?_of_forall₂ halike i)
  have hprevious := getLast?_of_forall₂ (List.forall₂_take i halike)
  exact hpasses i rule rule' _ _ hhere hrule hprevious (h.passes i rule hhere)

namespace Chain

theorem isChain_separate_iff {l : List (Rule ε)} :
    l.IsChain Rule.Separate ↔
      (l.map Rule.isGap).IsChain fun a b => ¬(a = true ∧ b = true) := by
  rw [List.isChain_map]
  rfl

/-- Rules can be built if they correspond to rules that can, gaps to gaps. -/
theorem WellFormed.of_forall₂ (halike : List.Forall₂ R l l')
    (hgap : ∀ rule rule', R rule rule' → rule'.isGap = rule.isGap)
    (hfilled : ∀ rule rule', R rule rule' → rule.Filled → rule'.Filled)
    (h : (rules l).WellFormed) : (rules l').WellFormed := by
  have hgaps : l'.map Rule.isGap = l.map Rule.isGap := by
    clear h
    induction halike with
    | nil => rfl
    | cons hrule _ ih => rw [List.map_cons, List.map_cons, hgap _ _ hrule, ih]
  refine ⟨nofun, ?_, fun rule' hmem => ?_⟩
  · have hseparate := isChain_separate_iff.1 h.separate
    refine isChain_separate_iff.2 ?_
    rw [toList_rules, hgaps]
    exact hseparate
  · obtain ⟨i, hi⟩ := List.mem_iff_getElem?.1 hmem
    obtain ⟨rule, hhere, hrule⟩ := exists_of_rel_some (hi ▸ getElem?_of_forall₂ halike i)
    exact hfilled rule rule' hrule (h.filled rule (List.mem_of_getElem? hhere))

theorem WellFormed.of_related (halike : List.Forall₂ (Rule.Related B) l l')
    (hfilled : ∀ b b', B b b' → b.events ≠ [] → b'.events ≠ [])
    (h : (rules l).WellFormed) : (rules l').WellFormed :=
  h.of_forall₂ halike (fun _ _ hrule => hrule.isGap_eq) fun _ _ hrule => hrule.filled hfilled

end Chain

end GivenWhenThen
