import GivenWhenThen.Proofs.Json.Text
import GivenWhenThen.Proofs.OrderedMap
import Mathlib.Data.List.Sort

/-! Values up to the order of fields. Two values are `Alike` if their objects have alike values
under the same keys, at every depth; these are the values that are the same once sorted, by
`alike_iff`. -/

namespace GivenWhenThen

/-- Entries in order are known by what is found among them. -/
theorem OrderedMap.eq_of_lookup_eq {α : Type} {l l' : List (String × α)}
    (h : l.Pairwise (fun a b => a.1 < b.1)) (h' : l'.Pairwise (fun a b => a.1 < b.1))
    (hlookup : ∀ key, l.lookup key = l'.lookup key) : l = l' := by
  have hantisymm : Std.Antisymm fun a b : String × α => a.1 < b.1 :=
    ⟨fun _ _ hab hba => absurd (String.lt_trans hab hba) (String.lt_irrefl _)⟩
  have hirrefl : Std.Irrefl fun a b : String × α => a.1 < b.1 := ⟨fun _ => String.lt_irrefl _⟩
  refine h.eq_of_mem_iff h' fun (key, a) => ?_
  rw [← lookup_eq_some_iff h, ← lookup_eq_some_iff h', hlookup]

namespace Json

/-- Values that differ only in the order in which their objects list the fields, and in fields whose
key is listed again further behind. -/
inductive Alike : Json → Json → Prop
  | null : Alike null null
  | bool {b : Bool} : Alike (bool b) (bool b)
  | number {n : Number} : Alike (number n) (number n)
  | string {s : String} : Alike (string s) (string s)
  | array {xs ys : List Json} (h : List.Forall₂ Alike xs ys) : Alike (array xs) (array ys)
  | object {fs gs : List (String × Json)}
    (h : ∀ key, Option.Rel Alike ((object fs).get? key) ((object gs).get? key)) :
    Alike (object fs) (object gs)

/-! ### Fields in order -/

variable {fields : List (String × Json)} {key : String} {value : Json}

theorem sortedItems_eq_map (items : List Json) : sortedItems items = items.map sorted := by
  induction items with
  | nil => rfl
  | cons x items ih => rw [sortedItems, ih, List.map_cons]

theorem sortedFields_eq_map (fields : List (String × Json)) :
    sortedFields fields = fields.map fun f => (f.1, f.2.sorted) := by
  induction fields with
  | nil => rfl
  | cons f fields ih => rw [sortedFields, ih, List.map_cons]

theorem insertField_eq (key : String) (value : Json) (fields : List (String × Json)) :
    insertField key value fields = OrderedMap.alterEntries key (fun _ => value) fields := by
  induction fields with
  | nil => rfl
  | cons f fields ih => rw [insertField, OrderedMap.alterEntries, ih]

theorem sortFields_append_singleton (fields : List (String × Json)) (f : String × Json) :
    sortFields (fields ++ [f]) =
      OrderedMap.alterEntries f.1 (fun _ => f.2) (sortFields fields) := by
  rw [sortFields, List.foldl_append, List.foldl_cons, List.foldl_nil]
  exact insertField_eq ..

theorem get?_append_singleton (fields : List (String × Json)) (f : String × Json) :
    (object (fields ++ [f])).get? key =
      if key = f.1 then some f.2 else (object fields).get? key := by
  rw [get?, get?, List.reverse_append, List.reverse_singleton, List.singleton_append,
    List.find?_cons]
  by_cases h : key = f.1
  · rw [if_pos h, h, beq_self_eq_true]
    rfl
  · rw [if_neg h, beq_eq_false_iff_ne.2 (Ne.symm h)]

theorem pairwise_sortFields (fields : List (String × Json)) :
    (sortFields fields).Pairwise fun f g => f.1 < g.1 := by
  induction fields using List.reverseRecOn with
  | nil => exact .nil
  | append_singleton fields f ih =>
    rw [sortFields_append_singleton]
    exact OrderedMap.pairwise_alterEntries ih

/-- Sorting keeps what is found under each key. -/
theorem lookup_sortFields (fields : List (String × Json)) (key : String) :
    (sortFields fields).lookup key = (object fields).get? key := by
  induction fields using List.reverseRecOn with
  | nil => rfl
  | append_singleton fields f ih =>
    rw [sortFields_append_singleton, OrderedMap.lookup_alterEntries (pairwise_sortFields fields),
      ih, get?_append_singleton]

theorem sortFields_eq_iff {fields' : List (String × Json)} :
    sortFields fields = sortFields fields' ↔
      ∀ key, (object fields).get? key = (object fields').get? key := by
  constructor
  · intro h key
    rw [← lookup_sortFields, ← lookup_sortFields, h]
  · intro h
    refine OrderedMap.eq_of_lookup_eq (pairwise_sortFields _) (pairwise_sortFields _) fun key => ?_
    rw [lookup_sortFields, lookup_sortFields, h]

theorem get?_sortedFields (fields : List (String × Json)) (key : String) :
    (object (sortedFields fields)).get? key = ((object fields).get? key).map sorted := by
  induction fields using List.reverseRecOn with
  | nil => rfl
  | append_singleton fields f ih =>
    rw [sortedFields_eq_map, List.map_append, List.map_singleton, get?_append_singleton,
      get?_append_singleton, ← sortedFields_eq_map, ih]
    split
    · rfl
    · rfl

theorem mem_of_get? (h : (object fields).get? key = some value) : (key, value) ∈ fields := by
  obtain ⟨f, hf, rfl⟩ := Option.map_eq_some_iff.1 h
  have hkey : f.1 = key := by simpa using List.find?_some hf
  rw [← hkey]
  exact List.mem_reverse.1 (List.mem_of_find?_eq_some hf)

/-! ### Values up to the order of fields -/

theorem forall₂_alike_iff {xs ys : List Json}
    (h : ∀ x ∈ xs, ∀ {y : Json}, x.Alike y ↔ x.sorted = y.sorted) :
    List.Forall₂ Alike xs ys ↔ xs.map sorted = ys.map sorted := by
  induction xs generalizing ys with
  | nil => rw [List.forall₂_nil_left_iff, List.map_nil, eq_comm (a := []), List.map_eq_nil_iff]
  | cons x xs ih =>
    obtain ⟨hx, hxs⟩ := List.forall_mem_cons.1 h
    cases ys with
    | nil => simp
    | cons y ys => rw [List.forall₂_cons, hx, ih hxs, List.map_cons, List.map_cons, List.cons.injEq]

theorem rel_alike_iff {x? y? : Option Json}
    (h : ∀ x ∈ x?, ∀ {y : Json}, x.Alike y ↔ x.sorted = y.sorted) :
    Option.Rel Alike x? y? ↔ x?.map sorted = y?.map sorted := by
  cases x? with
  | none =>
    cases y? with
    | none => exact ⟨fun _ => rfl, fun _ => .none⟩
    | some y => exact ⟨nofun, nofun⟩
  | some x =>
    cases y? with
    | none => exact ⟨nofun, nofun⟩
    | some y =>
      have hsome : Option.Rel Alike (some x) (some y) ↔ x.Alike y := ⟨fun | .some h => h, .some⟩
      rw [hsome, h x rfl, Option.map_some, Option.map_some, Option.some.injEq]

/-- Values differ only in the order of fields just if they are the same once sorted. -/
theorem alike_iff {a b : Json} : a.Alike b ↔ a.sorted = b.sorted := by
  induction a using induction generalizing b with
  | null =>
    cases b with
    | null => exact ⟨fun _ => rfl, fun _ => .null⟩
    | bool | number | string | array | object => exact ⟨nofun, nofun⟩
  | bool c =>
    cases b with
    | bool d =>
      refine ⟨fun | .bool => rfl, fun h => ?_⟩
      cases h
      exact .bool
    | null | number | string | array | object => exact ⟨nofun, nofun⟩
  | number m =>
    cases b with
    | number n =>
      refine ⟨fun | .number => rfl, fun h => ?_⟩
      cases h
      exact .number
    | null | bool | string | array | object => exact ⟨nofun, nofun⟩
  | string s =>
    cases b with
    | string t =>
      refine ⟨fun | .string => rfl, fun h => ?_⟩
      cases h
      exact .string
    | null | bool | number | array | object => exact ⟨nofun, nofun⟩
  | array xs ih =>
    cases b with
    | array ys =>
      have harray : (array xs).Alike (array ys) ↔ List.Forall₂ Alike xs ys :=
        ⟨fun | .array h => h, .array⟩
      rw [harray, forall₂_alike_iff ih, sorted, sorted, sortedItems_eq_map, sortedItems_eq_map,
        array.injEq]
    | null | bool | number | string | object => exact ⟨nofun, nofun⟩
  | object fs ih =>
    cases b with
    | object gs =>
      have hobject : (object fs).Alike (object gs) ↔
          ∀ key, Option.Rel Alike ((object fs).get? key) ((object gs).get? key) :=
        ⟨fun | .object h => h, .object⟩
      have hrel : ∀ key, Option.Rel Alike ((object fs).get? key) ((object gs).get? key) ↔
          ((object fs).get? key).map sorted = ((object gs).get? key).map sorted :=
        fun key => rel_alike_iff fun x hx => ih (key, x) (mem_of_get? hx)
      rw [hobject, sorted, sorted, object.injEq, sortFields_eq_iff]
      simp only [get?_sortedFields, hrel]
    | null | bool | number | string | array => exact ⟨nofun, nofun⟩

end Json

end GivenWhenThen
