import Mathlib.Data.List.Forall2

/-! Results that may be errors: when a computation in steps ends with a value, and when with an
error. An error of a fold is the error of one of its steps, after steps that all had values, and the
results of a list are the results of its elements. -/

namespace GivenWhenThen

section Bind

variable {ε α β : Type} {x : Except ε α} {f : α → Except ε β}

theorem bind_eq_ok_iff {b : β} : (x >>= f) = .ok b ↔ ∃ a, x = .ok a ∧ f a = .ok b := by
  cases x <;> simp [bind, Except.bind]

theorem bind_eq_error_iff {e : ε} :
    (x >>= f) = .error e ↔ x = .error e ∨ ∃ a, x = .ok a ∧ f a = .error e := by
  cases x <;> simp [bind, Except.bind]

theorem mapError_eq_ok_iff {ε' : Type} {g : ε → ε'} {a : α} : x.mapError g = .ok a ↔ x = .ok a := by
  cases x <;> simp [Except.mapError]

end Bind

section Fold

variable {ε α σ : Type} {f : σ → α → Except ε σ} {l : List α} {s : σ} {e : ε}

theorem foldlM_eq_error_iff :
    l.foldlM f s = .error e ↔
      ∃ i x s', l[i]? = some x ∧ (l.take i).foldlM f s = .ok s' ∧ f s' x = .error e := by
  induction l generalizing s with
  | nil => simp [pure, Except.pure]
  | cons y l ih =>
    rw [List.foldlM_cons, bind_eq_error_iff]
    simp only [ih]
    constructor
    · rintro (h | ⟨t, ht, i, x, s', hx, hrun, h⟩)
      · exact ⟨0, y, s, rfl, rfl, h⟩
      · refine ⟨i + 1, x, s', hx, ?_, h⟩
        rw [List.take_succ_cons, List.foldlM_cons, ht]
        exact hrun
    · rintro ⟨i, x, s', hx, hrun, h⟩
      cases i with
      | zero =>
        cases hx
        cases hrun
        exact .inl h
      | succ i =>
        rw [List.take_succ_cons, List.foldlM_cons] at hrun
        obtain ⟨t, ht, hrun⟩ := bind_eq_ok_iff.1 hrun
        exact .inr ⟨t, ht, i, x, s', hx, hrun, h⟩

end Fold

section Map

variable {ε α β : Type} {f : α → Except ε β} {l : List α} {e : ε}

/-- The error of a list is the one of the first element that has an error. -/
theorem mapM_eq_error_iff :
    l.mapM f = .error e ↔
      ∃ before x after, l = before ++ x :: after ∧ (∀ y ∈ before, ∃ result, f y = .ok result) ∧
        f x = .error e := by
  induction l with
  | nil => simp [pure, Except.pure]
  | cons y l ih =>
    rw [List.mapM_cons, bind_eq_error_iff]
    simp only [bind_eq_error_iff, ih, pure, Except.pure, reduceCtorEq, and_false, exists_false,
      or_false]
    constructor
    · rintro (hy | ⟨result, hy, before, x, after, rfl, hbefore, hx⟩)
      · exact ⟨[], y, l, rfl, by simp, hy⟩
      · exact ⟨y :: before, x, after, rfl, List.forall_mem_cons.2 ⟨⟨result, hy⟩, hbefore⟩, hx⟩
    · rintro ⟨before, x, after, h, hbefore, hx⟩
      rcases List.cons_eq_append_iff.1 h with ⟨rfl, h⟩ | ⟨before, rfl, rfl⟩
      · cases h
        exact .inl hx
      · obtain ⟨⟨result, hy⟩, hbefore⟩ := List.forall_mem_cons.1 hbefore
        exact .inr ⟨result, hy, before, x, after, rfl, hbefore, hx⟩

/-- The error stays the same if only results change that are no errors. -/
theorem mapM_eq_error_congr {g : α → Except ε β}
    (h : ∀ x ∈ l, f x = g x ∨ (∃ y, f x = .ok y) ∧ ∃ y, g x = .ok y) (he : l.mapM f = .error e) :
    l.mapM g = .error e := by
  obtain ⟨before, x, after, rfl, hbefore, hx⟩ := mapM_eq_error_iff.1 he
  refine mapM_eq_error_iff.2 ⟨before, x, after, rfl, fun y hy => ?_, ?_⟩
  · rcases h y (List.mem_append_left _ hy) with heq | ⟨-, hg⟩
    · rw [← heq]
      exact hbefore y hy
    · exact hg
  · rcases h x (List.mem_append_right _ List.mem_cons_self) with heq | ⟨⟨y, hf⟩, -⟩
    · rw [← heq, hx]
    · rw [hx] at hf
      cases hf

theorem mapM_eq_ok_iff {results : List β} :
    l.mapM f = .ok results ↔ List.Forall₂ (fun x y => f x = .ok y) l results := by
  induction l generalizing results with
  | nil => simp [pure, Except.pure, eq_comm]
  | cons x l ih =>
    rw [List.mapM_cons, bind_eq_ok_iff]
    simp only [bind_eq_ok_iff, ih]
    constructor
    · rintro ⟨y, hy, ys, hys, ⟨⟩⟩
      exact .cons hy hys
    · rintro (_ | ⟨hy, hys⟩)
      exact ⟨_, hy, _, hys, rfl⟩

theorem mapM_congr {g : α → Except ε β} (h : ∀ x ∈ l, f x = g x) : l.mapM f = l.mapM g := by
  induction l with
  | nil => rfl
  | cons x l ih =>
    obtain ⟨hhead, hrest⟩ := List.forall_mem_cons.1 h
    rw [List.mapM_cons, List.mapM_cons, hhead, ih hrest]

/-- All results have a property if each element has a result with it. -/
theorem exists_mapM_eq_ok_iff {P : β → Prop} :
    (∃ results, l.mapM f = .ok results ∧ ∀ y ∈ results, P y) ↔
      ∀ x ∈ l, ∃ y, f x = .ok y ∧ P y := by
  simp only [mapM_eq_ok_iff]
  induction l with
  | nil => simp
  | cons x l ih =>
    rw [List.forall_mem_cons, ← ih]
    constructor
    · rintro ⟨_, _ | ⟨hy, hys⟩, hP⟩
      obtain ⟨hhead, hrest⟩ := List.forall_mem_cons.1 hP
      exact ⟨⟨_, hy, hhead⟩, _, hys, hrest⟩
    · rintro ⟨⟨y, hy, hhead⟩, ys, hys, hrest⟩
      exact ⟨y :: ys, .cons hy hys, List.forall_mem_cons.2 ⟨hhead, hrest⟩⟩

section Visit

variable {visit : α → Except ε Unit}

/-- To visit a list is to map it and forget the results. -/
theorem forM_eq_bind_mapM : l.forM visit = l.mapM visit >>= fun _ => .ok () := by
  induction l with
  | nil => rfl
  | cons x l ih =>
    rw [List.forM_eq_forM] at ih
    rw [List.forM_eq_forM, List.forM_cons, ih, List.mapM_cons]
    simp only [bind_assoc, pure_bind]

theorem exists_eq_ok_iff {x : Except ε Unit} : (∃ result, x = .ok result) ↔ x = .ok () :=
  ⟨fun ⟨_, h⟩ => h, fun h => ⟨(), h⟩⟩

theorem forM_eq_ok_iff : l.forM visit = .ok () ↔ ∀ x ∈ l, visit x = .ok () := by
  have hresults := exists_mapM_eq_ok_iff (f := visit) (l := l) (P := fun _ => True)
  simp only [implies_true, and_true, exists_eq_ok_iff] at hresults
  rw [forM_eq_bind_mapM, bind_eq_ok_iff, ← hresults]
  simp only [and_true]

/-- The first element with an error ends the visit. -/
theorem forM_eq_error_iff :
    l.forM visit = .error e ↔
      ∃ before x after, l = before ++ x :: after ∧ (∀ y ∈ before, visit y = .ok ()) ∧
        visit x = .error e := by
  rw [forM_eq_bind_mapM, bind_eq_error_iff, mapM_eq_error_iff]
  simp only [exists_eq_ok_iff, reduceCtorEq, and_false, exists_false, or_false]

end Visit

end Map

section Failure

variable {α β : Type}

/-- The error of a result, if it is one. -/
def failure? : Except α β → Option α
  | .ok _ => none
  | .error a => some a

theorem failure?_eq_some_iff {x : Except α β} {a : α} : failure? x = some a ↔ x = .error a := by
  cases x <;> simp [failure?]

theorem failure?_eq_none_iff {x : Except α Unit} : failure? x = none ↔ x = .ok () := by
  cases x <;> simp [failure?]

end Failure

end GivenWhenThen
