/-! Finite maps from texts, in ascending order of their keys. The order is part of the type, so
that two maps with the same values under the same keys are equal. -/

namespace GivenWhenThen

/-- Entries in strictly ascending order of their keys, which is the order of code points. -/
structure OrderedMap (α : Type) where
  entries : List (String × α) := []
  ascending : entries.Pairwise (fun a b => a.1 < b.1) := by simp
deriving DecidableEq, Repr

namespace OrderedMap

variable {α β : Type}

def empty : OrderedMap α := {}

instance : EmptyCollection (OrderedMap α) := ⟨empty⟩

/-- Puts `f` of the value under `key` at the place of `key` among ascending entries. -/
def alterEntries (key : String) (f : Option α → α) : List (String × α) → List (String × α)
  | [] => [(key, f none)]
  | (k, a) :: rest =>
    if key < k then (key, f none) :: (k, a) :: rest
    else if key = k then (key, f (some a)) :: rest
    else (k, a) :: alterEntries key f rest

theorem mem_alterEntries {key : String} {f : Option α → α} {l : List (String × α)}
    {e : String × α} (h : e ∈ alterEntries key f l) : e.1 = key ∨ e ∈ l := by
  induction l with
  | nil => simp_all [alterEntries]
  | cons head rest ih =>
    obtain ⟨k, a⟩ := head
    simp only [alterEntries] at h
    split at h
    · simp_all only [List.mem_cons]
      rcases h with h | h | h <;> simp [h]
    · split at h
      · simp only [List.mem_cons] at h
        rcases h with h | h <;> simp [h]
      · simp only [List.mem_cons] at h
        rcases h with h | h
        · simp [h]
        · rcases ih h with h | h <;> simp [h]

theorem pairwise_alterEntries {key : String} {f : Option α → α} {l : List (String × α)}
    (h : l.Pairwise (fun a b => a.1 < b.1)) :
    (alterEntries key f l).Pairwise (fun a b => a.1 < b.1) := by
  induction l with
  | nil => simp [alterEntries]
  | cons head rest ih =>
    obtain ⟨k, a⟩ := head
    rw [List.pairwise_cons] at h
    simp only [alterEntries]
    split
    · next hlt =>
      refine List.pairwise_cons.2 ⟨fun e he => ?_, List.pairwise_cons.2 h⟩
      rcases List.mem_cons.1 he with rfl | he
      · exact hlt
      · exact String.lt_trans hlt (h.1 e he)
    · next hlt =>
      split
      · next heq =>
        subst heq
        exact List.pairwise_cons.2 ⟨fun e he => h.1 e he, h.2⟩
      · next hne =>
        refine List.pairwise_cons.2 ⟨fun e he => ?_, ih h.2⟩
        rcases mem_alterEntries he with he | he
        · have hle : k ≤ key := String.not_lt.1 hlt
          rw [he]
          exact Decidable.byContradiction fun hn =>
            hne (String.le_antisymm (String.not_lt.1 hn) hle)
        · exact h.1 e he

/-- The map whose value under `key` is `f` of the value before, and elsewhere unchanged. -/
def alter (m : OrderedMap α) (key : String) (f : Option α → α) : OrderedMap α :=
  ⟨alterEntries key f m.entries, pairwise_alterEntries m.ascending⟩

def insert (m : OrderedMap α) (key : String) (value : α) : OrderedMap α :=
  m.alter key fun _ => value

def get? (m : OrderedMap α) (key : String) : Option α := m.entries.lookup key

def keys (m : OrderedMap α) : List String := m.entries.map (·.1)

def values (m : OrderedMap α) : List α := m.entries.map (·.2)

end OrderedMap

end GivenWhenThen
