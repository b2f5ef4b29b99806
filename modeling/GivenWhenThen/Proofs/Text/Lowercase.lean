import Mathlib.Data.List.Infix
import GivenWhenThen.Text.Lowercase

/-! Lowercasing the parts of a text. Only the form of a capital sigma depends on the characters
around it, so that by `lowercaseBetween_eq_iff` a part has the same form in two places just if each
of its capital sigmas ends a word in both or in neither. `occursIn_iff` says that one text occurs in
another where it is a block of neighbours. -/

namespace GivenWhenThen.Text

open Unicode

/-- A capital sigma between these characters, those before it last first, ends a word. -/
def endsWord (before after : List Char) : Bool := startsCased before && !startsCased after

/-- The lowercase form of a part of a text between other characters, those before it last first. -/
def lowercaseBetween (before : List Char) : List Char → List Char → List Char
  | [], _ => []
  | c :: part, after =>
    lowercaseAt before c (part ++ after) ++ lowercaseBetween (c :: before) part after

variable {before before' after after' part l r : List Char} {c : Char}

/-! ### The neighbours of a character -/

theorem startsCased_cons :
    startsCased (c :: l) = if isCaseIgnorable c then startsCased l else isCased c := by
  cases h : isCaseIgnorable c with
  | true => simp only [startsCased, List.dropWhile_cons, h, if_true]
  | false => simp [startsCased, h]

/-- The first characters count unless all of them are case-ignorable. -/
theorem startsCased_append :
    startsCased (l ++ r) = if l.all isCaseIgnorable then startsCased r else startsCased l := by
  induction l with
  | nil => rfl
  | cons c l ih =>
    rw [List.cons_append, startsCased_cons, startsCased_cons, ih, List.all_cons]
    cases isCaseIgnorable c with
    | true => rfl
    | false => rfl

theorem startsCased_of_all (h : l.all isCaseIgnorable = true) : startsCased l = false := by
  rw [← List.append_nil l, startsCased_append, if_pos h]
  rfl

/-- What is behind does not count if no cased character comes next in it. -/
theorem startsCased_append_of_not (h : startsCased r = false) :
    startsCased (l ++ r) = startsCased l := by
  rw [startsCased_append]
  split_ifs with hall
  · rw [h, startsCased_of_all hall]
  · rfl

/-! ### The form of a part -/

theorem lowercaseAfter_append :
    lowercaseAfter before (part ++ after) =
      lowercaseBetween before part after ++ lowercaseAfter (part.reverse ++ before) after := by
  induction part generalizing before with
  | nil => rfl
  | cons c part ih =>
    rw [List.cons_append, lowercaseAfter, ih, lowercaseBetween, List.append_assoc,
      List.reverse_cons, List.append_assoc, List.singleton_append]

theorem lowercaseBetween_nil : lowercaseBetween before part [] = lowercaseAfter before part := by
  have h : lowercaseAfter before (part ++ []) =
      lowercaseBetween before part [] ++ lowercaseAfter (part.reverse ++ before) [] :=
    lowercaseAfter_append
  rw [List.append_nil, lowercaseAfter, List.append_nil] at h
  exact h.symm

theorem length_lowercaseAt :
    (lowercaseAt before c after).length = (lowercaseAt before' c after').length := by
  rw [lowercaseAt, lowercaseAt]
  split_ifs <;> rfl

theorem lowercaseAt_eq_iff :
    lowercaseAt before c after = lowercaseAt before' c after' ↔
      (c = 'Σ' → endsWord before after = endsWord before' after') := by
  rw [lowercaseAt, lowercaseAt]
  by_cases hc : c = 'Σ'
  · have hforms : 'ς' ≠ 'σ' := by decide
    rw [if_pos hc, if_pos hc, ← endsWord, ← endsWord]
    cases endsWord before after <;> cases endsWord before' after' <;> simp [hc]
  · simp [hc]

/-- A part has the same form in two places just if each of its capital sigmas has. -/
theorem lowercaseBetween_eq_iff :
    lowercaseBetween before part after = lowercaseBetween before' part after' ↔
      ∀ u v, part = u ++ 'Σ' :: v →
        endsWord (u.reverse ++ before) (v ++ after) =
          endsWord (u.reverse ++ before') (v ++ after') := by
  induction part generalizing before before' with
  | nil => simp [lowercaseBetween]
  | cons c part ih =>
    rw [lowercaseBetween, lowercaseBetween]
    constructor
    · intro h u v hsplit
      obtain ⟨hc, hpart⟩ := List.append_inj h length_lowercaseAt
      rcases List.cons_eq_append_iff.1 hsplit with ⟨rfl, hv⟩ | ⟨u, rfl, hu⟩
      · cases hv
        exact lowercaseAt_eq_iff.1 hc rfl
      · simpa using ih.1 hpart u v hu
    · intro h
      have hc : lowercaseAt before c (part ++ after) = lowercaseAt before' c (part ++ after') :=
        lowercaseAt_eq_iff.2 fun hc => h [] part (by rw [hc, List.nil_append])
      have hpart := ih.2 fun u v hu => by
        simpa using h (c :: u) v (by rw [hu, List.cons_append])
      rw [hc, hpart]

/-! ### Parts of a text -/

theorem occursIn_iff : occursIn part l = true ↔ part <:+: l := by
  induction l with
  | nil => rw [occursIn, List.isEmpty_iff, List.infix_nil]
  | cons c l ih =>
    rw [occursIn, Bool.or_eq_true, ih, List.isPrefixOf_iff_prefix, List.infix_cons_iff]

end GivenWhenThen.Text
