import Mathlib.Order.Basic
import GivenWhenThen.Stream

/-! Looking keys up in a map whose entries are in order, and the streams of a map with events. -/

namespace GivenWhenThen

namespace OrderedMap

variable {α : Type} {key k : String} {f : Option α → α} {l : List (String × α)} {a : α}

theorem lookup_cons_eq_ite :
    List.lookup k ((key, a) :: l) = if k = key then some a else l.lookup k := by
  rw [List.lookup_cons]
  by_cases h : k = key
  · simp [h]
  · rw [beq_eq_false_iff_ne.2 h, if_neg h]

theorem lookup_eq_some_iff (h : l.Pairwise (fun a b => a.1 < b.1)) :
    l.lookup k = some a ↔ (k, a) ∈ l := by
  induction l with
  | nil => simp
  | cons head rest ih =>
    obtain ⟨key, b⟩ := head
    obtain ⟨hhead, hrest⟩ := List.pairwise_cons.1 h
    rw [lookup_cons_eq_ite, List.mem_cons, Prod.mk.injEq]
    by_cases heq : k = key
    · -- The keys behind the first are greater, so that none of them is the same.
      have hnot : (k, a) ∉ rest := by
        intro hmem
        have hlt : key < k := hhead _ hmem
        exact String.lt_irrefl _ (heq ▸ hlt)
      simp [heq, heq ▸ hnot, eq_comm]
    · simp [heq, ih hrest]

theorem lookup_eq_none_of_lt (h : ∀ entry ∈ l, key < entry.1) : l.lookup key = none := by
  rw [List.lookup_eq_none_iff]
  intro entry hmem
  rw [bne_iff_ne]
  intro heq
  have hlt := h entry hmem
  rw [← heq] at hlt
  exact String.lt_irrefl _ hlt

theorem lookup_alterEntries (h : l.Pairwise (fun a b => a.1 < b.1)) :
    (alterEntries key f l).lookup k =
      if k = key then some (f (l.lookup key)) else l.lookup k := by
  induction l with
  | nil => rw [alterEntries, lookup_cons_eq_ite, List.lookup_nil, List.lookup_nil]
  | cons head rest ih =>
    obtain ⟨head, a⟩ := head
    obtain ⟨hhead, hrest⟩ := List.pairwise_cons.1 h
    rw [alterEntries]
    by_cases hlt : key < head
    · have hnone : ((head, a) :: rest).lookup key = none := by
        apply lookup_eq_none_of_lt
        intro entry hmem
        rcases List.mem_cons.1 hmem with rfl | hmem
        · exact hlt
        · exact String.lt_trans hlt (hhead entry hmem)
      rw [if_pos hlt, lookup_cons_eq_ite, hnone]
    · rw [if_neg hlt]
      by_cases heq : key = head
      · simp only [lookup_cons_eq_ite, ← heq, if_true]
        by_cases hk : k = key
        · simp only [if_pos hk]
        · simp only [if_neg hk]
      · rw [if_neg heq, lookup_cons_eq_ite, lookup_cons_eq_ite, lookup_cons_eq_ite, ih hrest,
          if_neg heq]
        by_cases hk : k = key
        · simp only [hk, if_neg heq, if_true]
        · simp only [if_neg hk]

theorem get?_alter (m : OrderedMap α) :
    (m.alter key f).get? k = if k = key then some (f (m.get? key)) else m.get? k :=
  lookup_alterEntries m.ascending

theorem get?_eq_some_iff (m : OrderedMap α) : m.get? k = some a ↔ (k, a) ∈ m.entries :=
  lookup_eq_some_iff m.ascending

end OrderedMap

namespace Streams

variable {ε : Type} (streams : Streams ε) {id : StreamId}

theorem mem_nonempty_iff : id ∈ streams.nonempty ↔ streams.events id ≠ [] := by
  have hentry : id ∈ streams.nonempty ↔ ∃ events, (id, events) ∈ streams.entries ∧ events ≠ [] := by
    simp [nonempty]
  simp only [hentry, ← OrderedMap.get?_eq_some_iff, events]
  cases streams.get? id <;> simp

theorem pairwise_nonempty : streams.nonempty.Pairwise (· < ·) :=
  List.Pairwise.map _ (fun _ _ h => h) (streams.ascending.filter _)

theorem events_of_mem {entry : StreamId × List ε} (h : entry ∈ streams.entries) :
    streams.events entry.1 = entry.2 := by
  rw [events, (OrderedMap.get?_eq_some_iff streams).2 h]
  rfl

theorem events_append_of_ne {other : StreamId} (events : List ε) (h : other ≠ id) :
    (streams.append id events).events other = streams.events other := by
  rw [Streams.events, append, OrderedMap.get?_alter, if_neg h, Streams.events]

/-- All events are those of the streams with events, one stream after the other. -/
theorem allEvents_eq : streams.allEvents = streams.nonempty.flatMap streams.events := by
  have hentries (l : List (StreamId × List ε)) (h : ∀ entry ∈ l, streams.events entry.1 = entry.2) :
      (l.map (·.2)).flatten = ((l.filter (!·.2.isEmpty)).map (·.1)).flatMap streams.events := by
    induction l with
    | nil => rfl
    | cons entry l ih =>
      obtain ⟨hentry, hl⟩ := List.forall_mem_cons.1 h
      rw [List.map_cons, List.flatten_cons, ih hl]
      cases hempty : entry.2 with
      | nil => simp [hempty]
      | cons event events => simp [hempty, hentry]
  exact hentries streams.entries fun entry hmem => streams.events_of_mem hmem

end Streams

end GivenWhenThen
