import GivenWhenThen.Canonical
import GivenWhenThen.Proofs.Results

/-! The canonical forms of events as a function. `Canonicalizer.form` is the form of each event that
has one, and where the events of a list have forms, `all_eq_map` says that making all of them
canonical gives just these. Otherwise the first event without a form has the error that is left, by
`all_eq_error_iff`. -/

namespace GivenWhenThen

namespace Canonicalizer

variable {ε : Type} {c : Canonicalizer ε} {events : List ε}

/-- The canonical form of an event that has one. -/
def form (c : Canonicalizer ε) (event : ε) : Canonical :=
  match c.canonical event with
  | .ok form => form
  | .error _ => default

/-- Each of the events has a canonical form. -/
def Covers (c : Canonicalizer ε) (events : List ε) : Prop :=
  ∀ e ∈ events, ∃ form, c.canonical e = .ok form

theorem form_eq {event : ε} {form : Canonical} (h : c.canonical event = .ok form) :
    c.form event = form := by
  rw [Canonicalizer.form, h]

theorem eq_map_of_all {forms : List Canonical} (h : c.all events = .ok forms) :
    forms = events.map c.form := by
  induction events generalizing forms with
  | nil =>
    cases h
    rfl
  | cons e events ih =>
    rw [all, List.mapM_cons] at h
    obtain ⟨form, hform, hrest⟩ := bind_eq_ok_iff.1 h
    obtain ⟨rest, hall, hforms⟩ := bind_eq_ok_iff.1 hrest
    cases hforms
    rw [List.map_cons, form_eq hform, ih hall]

theorem all_eq_map (h : c.Covers events) : c.all events = .ok (events.map c.form) := by
  induction events with
  | nil => rfl
  | cons e events ih =>
    obtain ⟨form, hform⟩ := h e (by simp)
    have hrest := ih fun e he => h e (List.mem_cons_of_mem _ he)
    rw [all] at hrest ⊢
    rw [List.mapM_cons, hform, hrest, List.map_cons, form_eq hform]
    rfl

/-- Of events that are made canonical one list after the other, the first error ends it. -/
theorem all_append_bind {others : List ε} {α : Type} {result : Except Error α} :
    (c.all (events ++ others) >>= fun _ => result) =
      c.all events >>= fun _ => c.all others >>= fun _ => result := by
  rw [all, List.mapM_append]
  simp only [bind_assoc, pure_bind]
  rfl

theorem covers_cons_iff {event : ε} :
    c.Covers (event :: events) ↔ (∃ form, c.canonical event = .ok form) ∧ c.Covers events :=
  List.forall_mem_cons

theorem Covers.mono {others : List ε} (h : c.Covers events) (hsub : ∀ e ∈ others, e ∈ events) :
    c.Covers others :=
  fun e he => h e (hsub e he)

theorem Covers.append {others : List ε} (h : c.Covers events) (h' : c.Covers others) :
    c.Covers (events ++ others) :=
  fun e he => (List.mem_append.1 he).elim (h e) (h' e)

/-! ### The first event without a form -/

/-- The error of the first of the events that has no canonical form. -/
def FirstError (c : Canonicalizer ε) (events : List ε) (error : Error) : Prop :=
  ∃ before event after, events = before ++ event :: after ∧ c.Covers before ∧
    c.canonical event = .error error

variable {others : List ε} {error : Error}

theorem not_firstError_nil : ¬c.FirstError [] error := by
  rintro ⟨before, event, after, h, -, -⟩
  cases before <;> cases h

theorem firstError_cons_iff {event : ε} :
    c.FirstError (event :: events) error ↔
      c.canonical event = .error error ∨
        (∃ form, c.canonical event = .ok form) ∧ c.FirstError events error := by
  constructor
  · rintro ⟨before, e, after, h, hbefore, he⟩
    rcases List.cons_eq_append_iff.1 h with ⟨rfl, h⟩ | ⟨before, rfl, rfl⟩
    · cases h
      exact .inl he
    · exact .inr ⟨hbefore event (by simp), before, e, after, rfl,
        fun x hx => hbefore x (List.mem_cons_of_mem _ hx), he⟩
  · rintro (he | ⟨hform, before, e, after, rfl, hbefore, he⟩)
    · exact ⟨[], event, events, rfl, by simp [Covers], he⟩
    · exact ⟨event :: before, e, after, rfl, covers_cons_iff.2 ⟨hform, hbefore⟩, he⟩

theorem all_eq_error_iff : c.all events = .error error ↔ c.FirstError events error :=
  mapM_eq_error_iff

theorem covers_or_firstError (c : Canonicalizer ε) (events : List ε) :
    c.Covers events ∨ ∃ error, c.FirstError events error := by
  induction events with
  | nil => exact .inl (by simp [Covers])
  | cons event events ih =>
    cases he : c.canonical event with
    | error error => exact .inr ⟨error, firstError_cons_iff.2 (.inl he)⟩
    | ok form =>
      rcases ih with h | ⟨error, h⟩
      · exact .inl (covers_cons_iff.2 ⟨⟨form, he⟩, h⟩)
      · exact .inr ⟨error, firstError_cons_iff.2 (.inr ⟨⟨form, he⟩, h⟩)⟩

theorem FirstError.exists_mem (h : c.FirstError events error) :
    ∃ event ∈ events, c.canonical event = .error error := by
  obtain ⟨before, event, after, rfl, -, he⟩ := h
  exact ⟨event, by simp, he⟩

theorem FirstError.not_covers (h : c.FirstError events error) : ¬c.Covers events := by
  obtain ⟨event, hmem, he⟩ := h.exists_mem
  intro hcovers
  obtain ⟨form, hform⟩ := hcovers event hmem
  rw [he] at hform
  cases hform

theorem firstError_append_iff :
    c.FirstError (events ++ others) error ↔
      c.FirstError events error ∨ c.Covers events ∧ c.FirstError others error := by
  induction events with
  | nil => simp [not_firstError_nil, Covers]
  | cons event events ih =>
    rw [List.cons_append, firstError_cons_iff, firstError_cons_iff, covers_cons_iff, ih]
    simp only [and_or_left, or_assoc, and_assoc]

end Canonicalizer

end GivenWhenThen
