import Mathlib.Data.List.Perm.Subperm
import GivenWhenThen.Chain.Placement

/-! What placing a block finds, said without the code that looks for it. `Order.StandsAt` says where
expected events stand among the published ones, and `Order.MissedAt` which event is to blame where
they do not. The main statements are `missAt_eq_none_iff` and `missAt_eq_some_iff` for one start,
and `placeFrom_eq_found_iff` and `placeFrom_eq_missed_iff` for the search of the first start. -/

namespace GivenWhenThen

variable {α : Type}

namespace Order

/-- A window of published events holds exactly the expected ones, in the order asked for. -/
def Fits : Order → List α → List α → Prop
  | asGiven, expected, window => window = expected
  | any, expected, window => window.Perm expected

/-- The published events have a window from `start` on that fits. -/
def StandsAt (order : Order) (expected published : List α) (start : Nat) : Prop :=
  start + expected.length ≤ published.length ∧
    order.Fits expected ((published.drop start).take expected.length)

variable {order : Order} {expected published window : List α} {start : Nat}

theorem Fits.length_eq (h : order.Fits expected window) : window.length = expected.length := by
  cases order with
  | asGiven => exact congrArg List.length h
  | any => exact h.length_eq

/-- A window of the right length that fits stands where it is taken from. -/
theorem standsAt_of_fits (hne : expected ≠ [])
    (h : order.Fits expected ((published.drop start).take expected.length)) :
    order.StandsAt expected published start := by
  have hlen := h.length_eq
  have hpos := List.length_pos_iff.2 hne
  simp only [List.length_take, List.length_drop] at hlen
  exact ⟨by omega, h⟩

theorem StandsAt.lt_length (hne : expected ≠ []) (h : order.StandsAt expected published start) :
    start < published.length := by
  have hpos := List.length_pos_iff.2 hne
  have := h.1
  omega

/-- Events that agree up to `j` do not differ before it. -/
theorem le_of_differ {j k : Nat} {p e : α} (hp : published[start + k]? = some p)
    (he : expected[k]? = some e) (hne : p ≠ e)
    (hbefore : ∀ i < j, published[start + i]? = expected[i]?) : j ≤ k := by
  refine Nat.not_lt.1 fun hlt => hne ?_
  have := hbefore k hlt
  rw [hp, he] at this
  exact Option.some.inj this

/-- Events that differ somewhere are no beginning of the expected ones. -/
theorem not_prefix_of_differ {k : Nat} {p e : α} (hp : published[start + k]? = some p)
    (he : expected[k]? = some e) (hne : p ≠ e) : ¬published.drop start <+: expected := by
  rintro ⟨rest, hrest⟩
  have hk := (List.getElem?_eq_some_iff.1 hp).1
  rw [← hrest, List.getElem?_append_left (by rw [List.length_drop]; omega), List.getElem?_drop,
    hp] at he
  exact hne (Option.some.inj he)

/-- Events of which the first `j` are expected have none too many before that. -/
theorem le_of_not_subperm {j k : Nat} (hbefore : (window.take j).Subperm expected)
    (hhere : ¬(window.take (k + 1)).Subperm expected) : j ≤ k :=
  Nat.not_lt.1 fun hlt =>
    hhere ((List.take_sublist_take_left hlt).subperm.trans hbefore)

variable [DecidableEq α]

/-- Where expected events are missed that do not stand at `start`. -/
inductive MissedAt (expected published : List α) (start : Nat) : Order → Miss → Prop
  /-- The published event `k` places after the start is the first that is not the expected one. -/
  | differs {k : Nat} {p e : α} (here : published[start + k]? = some p)
      (wanted : expected[k]? = some e) (ne : p ≠ e)
      (before : ∀ i < k, published[start + i]? = expected[i]?) :
      MissedAt expected published start asGiven (.unexpected (start + k))
  /-- The published events end as a proper beginning of the expected ones. -/
  | ends (begins : published.drop start <+: expected)
      (shorter : (published.drop start).length < expected.length) :
      MissedAt expected published start asGiven (.notFound (published.drop start).length)
  /-- The published event `k` places after the start is the first that is one too many. -/
  | surplus {k : Nat} (inside : k < expected.length)
      (before : ((published.drop start).take k).Subperm expected)
      (here : ¬((published.drop start).take (k + 1)).Subperm expected) :
      MissedAt expected published start any (.unexpected (start + k))
  /-- The published events are all expected, and `k` is the first index of an expected event that
  is one more of its kind than they have. -/
  | lacking {k : Nat} {e : α} (contained : (published.drop start).Subperm expected)
      (here : expected[k]? = some e)
      (more : (published.drop start).count e < (expected.take (k + 1)).count e)
      (before : ∀ i < k, ∀ d, expected[i]? = some d →
        (expected.take (i + 1)).count d ≤ (published.drop start).count d) :
      MissedAt expected published start any (.notFound k)

end Order

variable [DecidableEq α]

/-! ### In the order given -/

section AsGiven

variable {expected window : List α} {next index : Nat} {miss : Miss}

theorem missAsGiven_eq_none_iff :
    missAsGiven next index expected window = none ↔ expected <+: window := by
  induction expected generalizing next index window with
  | nil => simp [missAsGiven]
  | cons e expected ih =>
    cases window with
    | nil => simp [missAsGiven]
    | cons p window =>
      by_cases h : e = p
      · simp [missAsGiven, h, ih]
      · simp [missAsGiven, h, List.cons_prefix_cons]

/-- A miss is the first difference, or the end of the published events. -/
theorem missAsGiven_eq_some (h : missAsGiven next index expected window = some miss) :
    (∃ k p e, window[k]? = some p ∧ expected[k]? = some e ∧ p ≠ e ∧
      (∀ i < k, window[i]? = expected[i]?) ∧ miss = .unexpected (index + k)) ∨
    (window <+: expected ∧ window.length < expected.length ∧
      miss = .notFound (next + window.length)) := by
  induction expected generalizing next index window with
  | nil => simp [missAsGiven] at h
  | cons e expected ih =>
    cases window with
    | nil =>
      simp only [missAsGiven, Option.some.injEq] at h
      exact .inr (by simp [← h])
    | cons p window =>
      by_cases heq : e = p
      · subst heq
        simp only [missAsGiven, if_true] at h
        rcases ih h with ⟨k, p, e', hp, he, hne, hbefore, rfl⟩ | ⟨hbegins, hlt, rfl⟩
        · refine .inl ⟨k + 1, p, e', by simpa using hp, by simpa using he, hne, fun i hi => ?_,
            by rw [Nat.add_right_comm, Nat.add_assoc]⟩
          cases i with
          | zero => simp
          | succ i => simpa using hbefore i (by omega)
        · exact .inr ⟨List.cons_prefix_cons.2 ⟨rfl, hbegins⟩, by simpa using hlt,
            by simp [Nat.add_right_comm, Nat.add_assoc]⟩
      · simp only [missAsGiven, heq, if_false, Option.some.injEq] at h
        exact .inl ⟨0, p, e, by simp, by simp, Ne.symm heq, by simp, by simp [← h]⟩

end AsGiven

/-! ### In any order -/

section InAnyOrder

variable {left : List (α × Nat)} {window : List α} {index : Nat}

theorem any_fst_beq {p : α} : left.any (·.1 == p) = true ↔ p ∈ left.map Prod.fst := by
  simp

theorem map_fst_eraseP (left : List (α × Nat)) (p : α) :
    (left.eraseP (·.1 == p)).map Prod.fst = (left.map Prod.fst).erase p := by
  rw [List.erase_eq_eraseP', List.eraseP_map]
  rfl

theorem cons_subperm_iff {a : α} {l m : List α} :
    (a :: l).Subperm m ↔ a ∈ m ∧ l.Subperm (m.erase a) := by
  constructor
  · intro h
    exact ⟨h.subset (by simp), by simpa using h.erase a⟩
  · rintro ⟨hmem, h⟩
    exact ((List.subperm_cons a).2 h).trans (List.perm_cons_erase hmem).symm.subperm

/-- An expected event is taken. -/
theorem missInAnyOrder_of_mem {p : α} (h : p ∈ left.map Prod.fst) :
    missInAnyOrder index left (p :: window) =
      missInAnyOrder (index + 1) (left.eraseP (·.1 == p)) window := by
  cases left with
  | nil => simp at h
  | cons x left => exact if_pos (any_fst_beq.2 h)

/-- An event that is not expected any more is refused. -/
theorem missInAnyOrder_of_not_mem {p : α} (hne : left ≠ []) (h : p ∉ left.map Prod.fst) :
    missInAnyOrder index left (p :: window) = some (.unexpected index) := by
  cases left with
  | nil => exact absurd rfl hne
  | cons x left => exact if_neg (mt any_fst_beq.1 h)

theorem length_eraseP_fst {p : α} (h : p ∈ left.map Prod.fst) :
    (left.eraseP (·.1 == p)).length + 1 = left.length := by
  have hlen := congrArg List.length (map_fst_eraseP left p)
  rw [List.length_map, List.length_erase_of_mem h, List.length_map] at hlen
  have := List.length_pos_of_mem h
  rw [List.length_map] at this
  omega

theorem missInAnyOrder_eq_none_iff :
    missInAnyOrder index left window = none ↔
      left.length ≤ window.length ∧ (window.take left.length).Perm (left.map Prod.fst) := by
  induction window generalizing left index with
  | nil => cases left <;> simp [missInAnyOrder]
  | cons p window ih =>
    by_cases hne : left = []
    · simp [hne, missInAnyOrder]
    by_cases h : p ∈ left.map Prod.fst
    · rw [missInAnyOrder_of_mem h, ih, map_fst_eraseP, ← length_eraseP_fst h, List.length_cons,
        Nat.add_le_add_iff_right, List.take_succ_cons, List.cons_perm_iff_perm_erase]
      simp only [h, true_and]
    · rw [missInAnyOrder_of_not_mem hne h]
      obtain ⟨x, rest, rfl⟩ := List.exists_cons_of_ne_nil hne
      simp only [reduceCtorEq, List.length_cons, List.take_succ_cons, false_iff, not_and]
      exact fun _ hperm => h (hperm.subset (by simp))

/-- What is left of the expected events when each published event has taken the first equal one. -/
def remaining (left : List (α × Nat)) (window : List α) : List (α × Nat) :=
  window.foldl (fun left p => left.eraseP (·.1 == p)) left

theorem remaining_cons (x : α × Nat) (left : List (α × Nat)) (window : List α) :
    remaining (x :: left) window =
      if x.1 ∈ window then remaining left (window.erase x.1) else x :: remaining left window := by
  induction window generalizing left with
  | nil => simp [remaining]
  | cons p window ih =>
    by_cases h : x.1 = p
    · simp [remaining, h]
    · have ih := ih (left.eraseP (·.1 == p))
      simp only [remaining, List.foldl_cons] at ih ⊢
      rw [List.eraseP_cons_of_neg (by simpa using h), ih]
      simp [h, Ne.symm h]

theorem remaining_nil (window : List α) : remaining ([] : List (α × Nat)) window = [] := by
  induction window with
  | nil => rfl
  | cons p window ih => exact ih

/-- An event and one like it among the published ones count the same for every kind. -/
theorem count_le_count_erase_iff {a : α} {l window : List α} (h : a ∈ window) (d : α) :
    l.count d ≤ (window.erase a).count d ↔ (a :: l).count d ≤ window.count d := by
  have hpos : 0 < window.count a := List.count_pos_iff.2 h
  by_cases hd : a = d
  · subst hd
    rw [List.count_erase_self, List.count_cons_self]
    omega
  · rw [List.count_erase_of_ne (Ne.symm hd), List.count_cons_of_ne hd]

/-- The first expected event left is the first that is one more of its kind than were published. -/
theorem remaining_head {left rest : List (α × Nat)} {window : List α} {e : α} {n : Nat}
    (h : remaining left window = (e, n) :: rest) :
    ∃ k, left[k]? = some (e, n) ∧ window.count e < ((left.map Prod.fst).take (k + 1)).count e ∧
      ∀ i < k, ∀ d, (left.map Prod.fst)[i]? = some d →
        ((left.map Prod.fst).take (i + 1)).count d ≤ window.count d := by
  induction left generalizing window with
  | nil => simp [remaining_nil] at h
  | cons x left ih =>
    rw [remaining_cons] at h
    by_cases hmem : x.1 ∈ window
    · rw [if_pos hmem] at h
      obtain ⟨k, hk, hmore, hbefore⟩ := ih h
      refine ⟨k + 1, by simpa using hk, ?_, fun i hi d hd => ?_⟩
      · rw [List.map_cons, List.take_succ_cons, ← Nat.not_le, ← count_le_count_erase_iff hmem]
        exact Nat.not_le.2 hmore
      · rw [List.map_cons, List.take_succ_cons, ← count_le_count_erase_iff hmem]
        cases i with
        | zero => simp
        | succ i => exact hbefore i (by omega) d (by simpa using hd)
    · rw [if_neg hmem] at h
      obtain ⟨rfl, -⟩ := List.cons.inj h
      exact ⟨0, by simp, by simp [List.count_eq_zero_of_not_mem hmem], by simp⟩

/-- A miss is the first published event that is one too many, or at their end the first expected
event left. -/
theorem missInAnyOrder_eq_some {miss : Miss}
    (h : missInAnyOrder index left window = some miss) :
    (∃ k < left.length, (window.take k).Subperm (left.map Prod.fst) ∧
      ¬(window.take (k + 1)).Subperm (left.map Prod.fst) ∧ miss = .unexpected (index + k)) ∨
    (window.Subperm (left.map Prod.fst) ∧
      ∃ e n rest, remaining left window = (e, n) :: rest ∧ miss = .notFound n) := by
  induction window generalizing left index with
  | nil =>
    cases left with
    | nil => simp [missInAnyOrder] at h
    | cons x left =>
      simp only [missInAnyOrder, Option.some.injEq] at h
      exact .inr ⟨by simp, x.1, x.2, left, rfl, h.symm⟩
  | cons p window ih =>
    by_cases hne : left = []
    · simp [hne, missInAnyOrder] at h
    by_cases hmem : p ∈ left.map Prod.fst
    · rw [missInAnyOrder_of_mem hmem] at h
      have hlen := length_eraseP_fst hmem
      rcases ih h with ⟨k, hk, hbefore, hhere, rfl⟩ | ⟨hsub, hrest⟩
      · rw [map_fst_eraseP] at hbefore hhere
        exact .inl ⟨k + 1, by omega, cons_subperm_iff.2 ⟨hmem, hbefore⟩,
          fun hall => hhere (cons_subperm_iff.1 hall).2, by rw [Nat.add_right_comm, Nat.add_assoc]⟩
      · rw [map_fst_eraseP] at hsub
        exact .inr ⟨cons_subperm_iff.2 ⟨hmem, hsub⟩, hrest⟩
    · rw [missInAnyOrder_of_not_mem hne hmem, Option.some.injEq] at h
      exact .inl ⟨0, List.length_pos_iff.2 hne, by simp, fun hall => hmem (hall.subset (by simp)),
        h.symm⟩

end InAnyOrder

namespace Order

variable {order : Order} {expected published : List α} {start first : Nat} {miss : Miss}

/-! ### One start -/

theorem missAt_eq_none_iff (hne : expected ≠ []) :
    order.missAt expected published start = none ↔ order.StandsAt expected published start := by
  cases order with
  | asGiven =>
    rw [missAt, missAsGiven_eq_none_iff, List.prefix_iff_eq_take]
    exact ⟨fun h => standsAt_of_fits hne h.symm, fun h => h.2.symm⟩
  | any =>
    rw [missAt, missInAnyOrder_eq_none_iff, List.zipIdx_map_fst, List.length_zipIdx]
    refine ⟨fun h => standsAt_of_fits hne h.2, fun h => ⟨?_, h.2⟩⟩
    have := h.1
    rw [List.length_drop]
    omega

theorem missedAt_of_missAt (h : order.missAt expected published start = some miss) :
    MissedAt expected published start order miss := by
  cases order with
  | asGiven =>
    rcases missAsGiven_eq_some h with ⟨k, p, e, hp, he, hne, hbefore, rfl⟩ | ⟨hbegins, hlt, rfl⟩
    · rw [List.getElem?_drop] at hp
      refine .differs hp he hne fun i hi => ?_
      rw [← hbefore i hi, List.getElem?_drop]
    · rw [Nat.zero_add]
      exact .ends hbegins hlt
  | any =>
    rcases missInAnyOrder_eq_some h with
      ⟨k, hk, hbefore, hhere, rfl⟩ | ⟨hsub, e, n, rest, hrest, rfl⟩
    · rw [List.zipIdx_map_fst] at hbefore hhere
      exact .surplus (by simpa using hk) hbefore hhere
    · obtain ⟨k, hk, hmore, hbefore⟩ := remaining_head hrest
      rw [List.zipIdx_map_fst] at hsub hmore hbefore
      obtain ⟨he, rfl⟩ : expected[k]? = some e ∧ k = n := by
        simpa [List.getElem?_zipIdx, Option.map_eq_some_iff] using hk
      exact .lacking hsub he hmore hbefore

theorem MissedAt.not_standsAt (h : MissedAt expected published start order miss) :
    ¬order.StandsAt expected published start := by
  rintro ⟨hlen, hfits⟩
  cases h with
  | @differs k p e hp he hne _ =>
    have hk := (List.getElem?_eq_some_iff.1 he).1
    rw [← hfits, List.getElem?_take_of_lt hk, List.getElem?_drop, hp] at he
    exact hne (Option.some.inj he)
  | ends _ hlt =>
    rw [List.length_drop] at hlt
    omega
  | surplus hk _ hhere =>
    refine hhere (List.Subperm.trans (List.Sublist.subperm ?_) hfits.subperm)
    exact (List.take_sublist_take_left (by omega))
  | lacking _ _ hmore _ =>
    refine Nat.not_le.2 hmore (Nat.le_trans ((List.take_sublist _ expected).count_le _) ?_)
    rw [← hfits.count_eq]
    exact (List.take_sublist _ _).count_le _

/-- Expected events that are missed are missed at one event only. -/
theorem MissedAt.unique {miss' : Miss} (h : MissedAt expected published start order miss)
    (h' : MissedAt expected published start order miss') : miss = miss' := by
  cases h with
  | differs hp he hne hbefore =>
    cases h' with
    | differs hp' he' hne' hbefore' =>
      rw [Nat.le_antisymm (le_of_differ hp' he' hne' hbefore) (le_of_differ hp he hne hbefore')]
    | ends hbegins _ => exact absurd hbegins (not_prefix_of_differ hp he hne)
  | ends hbegins _ =>
    cases h' with
    | differs hp he hne _ => exact absurd hbegins (not_prefix_of_differ hp he hne)
    | ends _ _ => rfl
  | surplus _ hbefore hhere =>
    cases h' with
    | surplus _ hbefore' hhere' =>
      rw [Nat.le_antisymm (le_of_not_subperm hbefore hhere') (le_of_not_subperm hbefore' hhere)]
    | lacking hsub _ _ _ => exact absurd ((List.take_sublist _ _).subperm.trans hsub) hhere
  | @lacking k e hsub he hmore hbefore =>
    cases h' with
    | surplus _ _ hhere => exact absurd ((List.take_sublist _ _).subperm.trans hsub) hhere
    | @lacking k' e' _ he' hmore' hbefore' =>
      have hle : k ≤ k' := Nat.not_lt.1 fun hlt => Nat.not_le.2 hmore' (hbefore k' hlt e' he')
      have hge : k' ≤ k := Nat.not_lt.1 fun hlt => Nat.not_le.2 hmore (hbefore' k hlt e he)
      rw [Nat.le_antisymm hle hge]

theorem missAt_eq_some_iff (hne : expected ≠ []) :
    order.missAt expected published start = some miss ↔
      MissedAt expected published start order miss := by
  refine ⟨missedAt_of_missAt, fun h => ?_⟩
  cases hmiss : order.missAt expected published start with
  | none => exact absurd ((missAt_eq_none_iff hne).1 hmiss) h.not_standsAt
  | some miss' => rw [(missedAt_of_missAt hmiss).unique h]

theorem placeAt_eq_found_iff (hne : expected ≠ []) {m : Nat} :
    order.placeAt expected published start = .found m ↔
      m = start ∧ order.StandsAt expected published start := by
  rw [← missAt_eq_none_iff hne, placeAt]
  cases order.missAt expected published start <;> simp [eq_comm]

theorem placeAt_eq_missed_iff (hne : expected ≠ []) :
    order.placeAt expected published start = .missed miss ↔
      MissedAt expected published start order miss := by
  rw [← missAt_eq_some_iff hne, placeAt]
  cases order.missAt expected published start <;> simp

/-! ### The first start -/

/-- The expected events stand at `m` and nowhere between `first` and `m`. -/
def FirstStandsAt (order : Order) (expected published : List α) (first m : Nat) : Prop :=
  first ≤ m ∧ order.StandsAt expected published m ∧
    ∀ j, first ≤ j → j < m → ¬order.StandsAt expected published j

theorem isNone_missAt_iff (hne : expected ≠ []) :
    (order.missAt expected published start).isNone = true ↔
      order.StandsAt expected published start := by
  rw [Option.isNone_iff_eq_none, missAt_eq_none_iff hne]

theorem placeFrom_eq_found_iff (hne : expected ≠ []) {m : Nat} :
    order.placeFrom expected published first = .found m ↔
      order.FirstStandsAt expected published first m := by
  have hfind : (List.range' first (published.length - first)).find? (fun start =>
      (order.missAt expected published start).isNone) = some m ↔
      order.FirstStandsAt expected published first m := by
    simp only [List.find?_range'_eq_some, isNone_missAt_iff hne, List.mem_range'_1,
      Bool.not_eq_true', ← Bool.not_eq_true, FirstStandsAt]
    refine ⟨fun ⟨hm, hrange, hbefore⟩ => ⟨hrange.1, hm, hbefore⟩, fun ⟨hle, hm, hbefore⟩ => ?_⟩
    have := hm.lt_length hne
    exact ⟨hm, ⟨hle, by omega⟩, hbefore⟩
  rw [← hfind, placeFrom]
  split
  · next hlen => simp [Nat.sub_eq_zero_of_le hlen]
  · split <;> simp [*]

/-- A search fails at the end of the published events, or else in the range from its start on. -/
theorem placeFrom_eq_missed_iff (hne : expected ≠ []) :
    order.placeFrom expected published first = .missed miss ↔
      (∀ j, first ≤ j → ¬order.StandsAt expected published j) ∧
      miss = if first < published.length then .seriesNotFound first (published.length - 1)
        else .notFound 0 := by
  have hfind : (List.range' first (published.length - first)).find? (fun start =>
      (order.missAt expected published start).isNone) = none ↔
      ∀ j, first ≤ j → ¬order.StandsAt expected published j := by
    simp only [List.find?_range'_eq_none, Bool.not_eq_true', ← Bool.not_eq_true,
      isNone_missAt_iff hne]
    refine ⟨fun h j hj hstands => ?_, fun h j hj _ => h j hj⟩
    have := hstands.lt_length hne
    exact h j hj (by omega) hstands
  rw [← hfind, placeFrom]
  split
  · next hlen => simp [Nat.sub_eq_zero_of_le hlen, Nat.not_lt.2 hlen, eq_comm]
  · next hlen => split <;> simp [*, Nat.not_le.1 hlen, eq_comm]

end Order

/-! ### Excluded events -/

section Excluded

variable {ε : Type} {exclusions : List (Exclusion ε)} {events : List ε} {first stop index : Nat}

/-- One of the exclusions holds for the event. -/
def Excludes (exclusions : List (Exclusion ε)) (event : ε) : Prop :=
  ∃ x ∈ exclusions, x event = true

/-- No event from `first` on and before `stop` is excluded. -/
def NoneExcluded (exclusions : List (Exclusion ε)) (events : List ε) (first stop : Nat) : Prop :=
  ∀ i, first ≤ i → i < stop → ∀ e, events[i]? = some e → ¬Excludes exclusions e

/-- The event at `index` is the first from `first` on and before `stop` that is excluded. -/
structure FirstExcluded (exclusions : List (Exclusion ε)) (events : List ε)
    (first stop index : Nat) : Prop where
  from_first : first ≤ index
  before_stop : index < stop
  excluded : ∃ e, events[index]? = some e ∧ Excludes exclusions e
  before : NoneExcluded exclusions events first index

theorem any_eq_true_iff_excludes {event : ε} :
    (exclusions.any (· event)) = true ↔ Excludes exclusions event := List.any_eq_true

theorem noneExcluded_nil : NoneExcluded [] events first stop :=
  fun _ _ _ _ _ ⟨_, hx, _⟩ => nomatch hx

/-- An entry of a window is the event so many places after its start. -/
theorem getElem?_window {j : Nat} {e : ε} :
    ((events.take stop).drop first)[j]? = some e ↔
      first + j < stop ∧ events[first + j]? = some e := by
  rw [List.getElem?_drop, List.getElem?_take]
  split <;> simp [*]

theorem firstExcluded?_eq_none_iff :
    firstExcluded? exclusions events first stop = none ↔
      NoneExcluded exclusions events first stop := by
  rw [firstExcluded?, Option.map_eq_none_iff, List.findIdx?_eq_none_iff]
  constructor
  · intro h i hfirst hstop e he
    rw [← any_eq_true_iff_excludes, Bool.not_eq_true]
    refine h e (List.mem_iff_getElem?.2 ⟨i - first, getElem?_window.2 ?_⟩)
    rw [Nat.add_sub_cancel' hfirst]
    exact ⟨hstop, he⟩
  · intro h e he
    obtain ⟨j, hj⟩ := List.mem_iff_getElem?.1 he
    obtain ⟨hstop, hj⟩ := getElem?_window.1 hj
    rw [← Bool.not_eq_true, any_eq_true_iff_excludes]
    exact h (first + j) (Nat.le_add_right _ _) hstop e hj

theorem firstExcluded?_eq_some_iff :
    firstExcluded? exclusions events first stop = some index ↔
      FirstExcluded exclusions events first stop index := by
  rw [firstExcluded?, Option.map_eq_some_iff]
  constructor
  · rintro ⟨j, hj, rfl⟩
    obtain ⟨hlt, hj, hbefore⟩ := List.findIdx?_eq_some_iff_getElem.1 hj
    obtain ⟨hstop, he⟩ := getElem?_window.1 (List.getElem?_eq_getElem hlt)
    refine ⟨Nat.le_add_right _ _, hstop, ⟨_, he, any_eq_true_iff_excludes.1 hj⟩, ?_⟩
    intro i hfirst hi e hie
    obtain ⟨k, rfl⟩ := Nat.exists_eq_add_of_le hfirst
    have hk : k < j := by omega
    have hke := (List.getElem?_eq_some_iff.1
      (getElem?_window.2 ⟨Nat.lt_trans (Nat.add_lt_add_left hk _) hstop, hie⟩)).2
    rw [← hke, ← any_eq_true_iff_excludes]
    exact hbefore k hk
  · rintro ⟨hfirst, hstop, ⟨e, he, hexcluded⟩, hbefore⟩
    obtain ⟨j, rfl⟩ := Nat.exists_eq_add_of_le hfirst
    obtain ⟨hlt, hje⟩ := List.getElem?_eq_some_iff.1 (getElem?_window.2 ⟨hstop, he⟩)
    refine ⟨j, List.findIdx?_eq_some_iff_getElem.2 ⟨hlt, ?_, fun k hk => ?_⟩, rfl⟩
    · rw [hje]
      exact any_eq_true_iff_excludes.2 hexcluded
    · have hwindow := getElem?_window.1 (List.getElem?_eq_getElem (Nat.lt_trans hk hlt))
      rw [any_eq_true_iff_excludes]
      exact hbefore _ (Nat.le_add_right _ _) (Nat.add_lt_add_left hk _) _ hwindow.2

end Excluded

end GivenWhenThen
