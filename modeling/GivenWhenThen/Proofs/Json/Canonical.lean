import GivenWhenThen.Proofs.Json.Alike
import GivenWhenThen.Scripted.Event

/-! Which events are the same once they are canonical by their serialized form. Texts tell values
apart if those of floats do, and sorting forgets the order of fields and nothing else, so that two
events are the same just if they have one label, and values that are alike or one of which wraps the
other: `Canonicalizer.json_eq_iff`. -/

namespace GivenWhenThen

open Json

namespace Canonicalizer

variable {label : String} {x y : Json}

/-! ### Removing the object around a value -/

theorem unwrap_object (label : String) (x : Json) : unwrap label (.object [(label, x)]) = x :=
  if_pos rfl

theorem unwrap_of_ne (h : ∀ z, x ≠ .object [(label, z)]) : unwrap label x = x := by
  unfold unwrap
  split
  · next key z =>
    split
    · next hkey => exact absurd (hkey ▸ rfl) (h z)
    · rfl
  · rfl

theorem eq_object_or_ne (label : String) (x : Json) :
    (∃ z, x = .object [(label, z)]) ∨ ∀ z, x ≠ .object [(label, z)] := by
  by_cases h : ∃ z, x = .object [(label, z)]
  · exact .inl h
  · exact .inr fun z hz => h ⟨z, hz⟩

/-- What is left of two values is the same only if they are, or if one is an object around the other
and only that one is removed. -/
theorem unwrap_eq_unwrap_iff :
    unwrap label x = unwrap label y ↔
      x = y ∨ (x = .object [(label, y)] ∧ ∀ z, y ≠ .object [(label, z)]) ∨
        (y = .object [(label, x)] ∧ ∀ z, x ≠ .object [(label, z)]) := by
  rcases eq_object_or_ne label x with ⟨x, rfl⟩ | hx <;>
    rcases eq_object_or_ne label y with ⟨y, rfl⟩ | hy
  · rw [unwrap_object, unwrap_object]
    constructor
    · rintro rfl
      exact .inl rfl
    · rintro (h | ⟨-, h⟩ | ⟨-, h⟩)
      · cases h
        rfl
      · exact absurd rfl (h y)
      · exact absurd rfl (h x)
  · rw [unwrap_object, unwrap_of_ne hy]
    constructor
    · rintro rfl
      exact .inr (.inl ⟨rfl, hy⟩)
    · rintro (h | ⟨h, -⟩ | ⟨h, -⟩)
      · exact absurd h.symm (hy x)
      · cases h
        rfl
      · exact absurd h (hy _)
  · rw [unwrap_object, unwrap_of_ne hx]
    constructor
    · rintro rfl
      exact .inr (.inr ⟨rfl, hx⟩)
    · rintro (h | ⟨h, -⟩ | ⟨h, -⟩)
      · exact absurd h (hx y)
      · exact absurd h (hx _)
      · cases h
        rfl
  · rw [unwrap_of_ne hx, unwrap_of_ne hy]
    constructor
    · exact .inl
    · rintro (h | ⟨h, -⟩ | ⟨h, -⟩)
      · exact h
      · exact absurd h (hx y)
      · exact absurd h (hy x)

end Canonicalizer

namespace Json

/-- The first value is an object whose only key is the label, around the second one, which is no
such object itself. -/
structure Wraps (label : String) (outer inner : Json) : Prop where
  outer : outer.Alike (object [(label, inner)])
  inner : ∀ value, ¬inner.Alike (object [(label, value)])

variable {label : String} {a b : Json}

theorem exists_eq_sorted {value : Json} (h : a.sorted = object [(label, value)]) :
    ∃ inner : Json, value = inner.sorted := by
  cases a with
  | object fields =>
    have hfields : sortFields (sortedFields fields) = [(label, value)] := by
      rwa [sorted, object.injEq] at h
    have hlookup : ((object fields).get? label).map sorted = some value := by
      rw [← get?_sortedFields, ← lookup_sortFields, hfields, OrderedMap.lookup_cons_eq_ite,
        if_pos rfl]
    obtain ⟨inner, -, hinner⟩ := Option.map_eq_some_iff.1 hlookup
    exact ⟨inner, hinner.symm⟩
  | null | bool | number | string | array => cases h

theorem wraps_iff :
    Wraps label a b ↔
      a.sorted = object [(label, b.sorted)] ∧ ∀ value, b.sorted ≠ object [(label, value)] := by
  have hsorted : ∀ value : Json,
      (object [(label, value)]).sorted = object [(label, value.sorted)] :=
    fun _ => rfl
  constructor
  · intro h
    refine ⟨?_, fun value hvalue => ?_⟩
    · rw [alike_iff.1 h.outer, hsorted]
    · obtain ⟨inner, rfl⟩ := exists_eq_sorted hvalue
      exact h.inner inner (alike_iff.2 (hvalue.trans (hsorted inner).symm))
  · rintro ⟨houter, hinner⟩
    refine ⟨alike_iff.2 (houter.trans (hsorted b).symm), fun value halike => ?_⟩
    exact hinner value.sorted ((alike_iff.1 halike).trans (hsorted value))

end Json

namespace Canonicalizer

variable {ε : Type} [Event ε] {event event' : ε} {value value' : Json}

section FloatText

variable [FloatText] [LawfulFloatText]

theorem ofJson_eq_ofJson_iff {label label' : String} :
    ofJson label value = ofJson label' value' ↔
      label = label' ∧ unwrap label value.sorted = unwrap label' value'.sorted := by
  rw [ofJson, ofJson, Canonical.mk.injEq]
  exact and_congr_right fun _ => ⟨text_inj, fun h => by rw [h]⟩

/-- However floats are written, as long as each has a text of its own: events are the same once
canonical just if they have the same label, and serialized forms that differ only in the order of
fields, or in an object under the label around one of them. -/
theorem json_eq_iff (h : Event.serialize event = .ok value)
    (h' : Event.serialize event' = .ok value') :
    ∃ form form', json.canonical event = .ok form ∧ json.canonical event' = .ok form' ∧
      (form = form' ↔ Event.label event = Event.label event' ∧
        (value.Alike value' ∨ Json.Wraps (Event.label event) value value' ∨
          Json.Wraps (Event.label event) value' value)) := by
  have hcanonical : ∀ {event : ε} {value : Json}, Event.serialize event = .ok value →
      json.canonical event = .ok (ofJson (Event.label event) value) := by
    intro event value h
    simp only [json, h]
  refine ⟨_, _, hcanonical h, hcanonical h', ?_⟩
  rw [ofJson_eq_ofJson_iff]
  refine and_congr_right fun hlabel => ?_
  rw [← hlabel, unwrap_eq_unwrap_iff, alike_iff, Json.wraps_iff, Json.wraps_iff]

end FloatText

/-- A payment under its label, and the same payment without it and with its fields the other way
round. -/
theorem json_eq_iff_payment :
    ∃ wrapped plain : Scripted.Event,
      Event.serialize wrapped = .ok (.object [("Paid", .object [("to", "A"), ("by", "B")])]) ∧
      Event.serialize plain = .ok (.object [("by", "B"), ("to", "A")]) ∧
      json.canonical wrapped = json.canonical plain := by
  let wrapped : Scripted.Event := ⟨"Paid", .wrapped (.object [("to", "A"), ("by", "B")]), .null⟩
  let plain : Scripted.Event := ⟨"Paid", .plain (.object [("by", "B"), ("to", "A")]), .null⟩
  obtain ⟨form, form', hwrapped, hplain, hiff⟩ :=
    @json_eq_iff Scripted.Event _ wrapped plain _ _ _ _ rfl rfl
  have hwraps : Json.Wraps "Paid" (.object [("Paid", .object [("to", "A"), ("by", "B")])])
      (.object [("by", "B"), ("to", "A")]) := by
    refine ⟨alike_iff.2 rfl, fun value halike => ?_⟩
    cases halike with
    | object h =>
      have hby : Option.Rel Alike (some (.string "B")) none := h "by"
      cases hby
  refine ⟨wrapped, plain, rfl, rfl, ?_⟩
  rw [hwrapped, hplain, hiff.2 ⟨rfl, .inr (.inl hwraps)⟩]

end Canonicalizer

end GivenWhenThen
