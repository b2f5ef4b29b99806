import Mathlib.Order.Bounds.Defs
import GivenWhenThen.Proofs.Chain.Placement

/-! Placing events in any order as a comparison of multisets. `Surplus` says that the published
events hold more of some event than are expected, and `Lacking` that an expected event is one more
of its kind than they hold. By `placeAt_any_exact` the events stand at a start just if a window of
the published ones is a permutation of them; otherwise the first surplus event is to blame, and
where there is none, the first lacking one. -/

namespace GivenWhenThen.Order

variable {α : Type} {expected published : List α} {start : Nat}

theorem take_drop_eq {k : Nat} :
    (published.take (start + k)).drop start = (published.drop start).take k := by
  rw [List.drop_take, Nat.add_sub_cancel_left]

/-- The published events from `start` up to the one at `index` are no part of the expected ones,
each counted as often as it occurs. -/
def Surplus (expected published : List α) (start index : Nat) : Prop :=
  start ≤ index ∧ index < published.length ∧
    ¬((published.take (index + 1)).drop start).Subperm expected

theorem not_surplus_of_subperm (h : (published.drop start).Subperm expected) (index : Nat) :
    ¬Surplus expected published start index := by
  rintro ⟨hle, -, hnot⟩
  obtain ⟨k, rfl⟩ := Nat.exists_eq_add_of_le hle
  rw [Nat.add_assoc, take_drop_eq] at hnot
  exact hnot ((List.take_sublist _ _).subperm.trans h)

variable [DecidableEq α] {miss : Miss}

/-- Up to the expected event at `index`, there are more of its kind than published ones from `start`
on. -/
def Lacking (expected published : List α) (start index : Nat) : Prop :=
  ∃ e, expected[index]? = some e ∧
    (published.drop start).count e < (expected.take (index + 1)).count e

/-- The event that a block in any order is missed at, as a comparison of multisets. -/
theorem MissedAt.exact (h : MissedAt expected published start any miss) :
    (∃ index, IsLeast {i | Surplus expected published start i} index ∧
      miss = .unexpected index) ∨
    (∀ i, ¬Surplus expected published start i) ∧
      ∃ index, IsLeast {j | Lacking expected published start j} index ∧
        miss = .notFound index := by
  cases h with
  | @surplus k _ hbefore hhere =>
    refine .inl ⟨start + k, ⟨⟨Nat.le_add_right _ _, ?_, ?_⟩, fun i hi => ?_⟩, rfl⟩
    · refine Nat.not_le.1 fun hle => hhere ?_
      have hlen : (published.drop start).length ≤ k := by rw [List.length_drop]; omega
      rwa [List.take_of_length_le (by omega), ← List.take_of_length_le hlen]
    · rwa [Nat.add_assoc, take_drop_eq]
    · -- What is no part of the expected events stays none when more are published behind it.
      obtain ⟨hle, -, hnot⟩ := hi
      obtain ⟨j, rfl⟩ := Nat.exists_eq_add_of_le hle
      rw [Nat.add_assoc, take_drop_eq] at hnot
      exact Nat.add_le_add_left (le_of_not_subperm hbefore hnot) _
  | @lacking k e hsub he hmore hbefore =>
    refine .inr ⟨not_surplus_of_subperm hsub, k, ⟨⟨e, he, hmore⟩, fun j hj => ?_⟩, rfl⟩
    obtain ⟨d, hd, hlack⟩ := hj
    exact Nat.not_lt.1 fun hlt => Nat.not_le.2 hlack (hbefore j hlt d hd)

/-- To place events in any order is to compare multisets. -/
theorem placeAt_any_exact (hne : expected ≠ []) :
    (any.placeAt expected published start = .found start ↔
      start + expected.length ≤ published.length ∧
        ((published.drop start).take expected.length).Perm expected) ∧
    (any.placeAt expected published start ≠ .found start →
      ((∃ i, Surplus expected published start i) →
        ∃ index, IsLeast {i | Surplus expected published start i} index ∧
          any.placeAt expected published start = .missed (.unexpected index)) ∧
      ((∀ i, ¬Surplus expected published start i) →
        ∃ index, IsLeast {j | Lacking expected published start j} index ∧
          any.placeAt expected published start = .missed (.notFound index))) := by
  have hfound : any.placeAt expected published start = .found start ↔
      any.StandsAt expected published start := by
    rw [placeAt_eq_found_iff hne]
    exact and_iff_right rfl
  refine ⟨hfound, fun hnot => ?_⟩
  cases hplace : any.placeAt expected published start with
  | found m =>
    obtain ⟨rfl, -⟩ := (placeAt_eq_found_iff hne).1 hplace
    exact absurd hplace hnot
  | missed miss =>
    rcases ((placeAt_eq_missed_iff hne).1 hplace).exact with
      ⟨index, hleast, rfl⟩ | ⟨hnone, index, hleast, rfl⟩
    · exact ⟨fun _ => ⟨index, hleast, rfl⟩, fun hnone => absurd hleast.1 (hnone index)⟩
    · exact ⟨fun ⟨i, hi⟩ => absurd hi (hnone i), fun _ => ⟨index, hleast, rfl⟩⟩

/-- Two payments and a shipment are expected, and one payment was published: it stands for the first
of the two, so that the shipment between them is the first that is lacking. -/
theorem placeAt_any_exact_paid :
    ∃ index, IsLeast {j | Lacking ["paid", "sent", "paid"] ["new", "paid"] 1 j} index ∧
      any.placeAt ["paid", "sent", "paid"] ["new", "paid"] 1 = .missed (.notFound index) :=
  ((placeAt_any_exact (by decide)).2 (by decide)).2 (not_surplus_of_subperm (by decide))

example : any.placeAt ["paid", "sent", "paid"] ["new", "paid"] 1 = .missed (.notFound 1) := by
  decide

end GivenWhenThen.Order
