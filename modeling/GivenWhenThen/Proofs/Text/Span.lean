import Mathlib.Data.List.Basic

/-! Where one part of a text ends and the next begins. A run of characters of one kind is followed
by a character of another kind, so that the run and what follows can be read back: `span_inj`. Lines
that hold no line end can be read back from the text that joins them: `joinLines_inj`. -/

namespace GivenWhenThen.Text

section Span

variable {α : Type} {p : α → Bool} {l l' r r' : List α}

/-- A run of elements of one kind, followed by one of another kind or by nothing. -/
structure Span (p : α → Bool) (l r : List α) : Prop where
  inside : ∀ x ∈ l, p x = true
  behind : ∀ x ∈ r.head?, p x = false

theorem Span.takeWhile_eq (h : Span p l r) : (l ++ r).takeWhile p = l := by
  rw [List.takeWhile_append_of_pos h.inside]
  cases r with
  | nil => rw [List.takeWhile_nil, List.append_nil]
  | cons x r => rw [List.takeWhile_cons_of_neg (by simp [h.behind x rfl]), List.append_nil]

theorem Span.dropWhile_eq (h : Span p l r) : (l ++ r).dropWhile p = r := by
  rw [List.dropWhile_append_of_pos h.inside]
  cases r with
  | nil => rfl
  | cons x r => rw [List.dropWhile_cons_of_neg (by simp [h.behind x rfl])]

theorem span_inj (h : Span p l r) (h' : Span p l' r') (heq : l ++ r = l' ++ r') :
    l = l' ∧ r = r' := by
  rw [← h.takeWhile_eq, heq, h'.takeWhile_eq, ← h.dropWhile_eq, heq, h'.dropWhile_eq]
  exact ⟨rfl, rfl⟩

end Span

/-! ### Numbers -/

theorem isDigit_of_mem_toString {n : ℕ} {c : Char} (h : c ∈ (toString n).toList) :
    c.isDigit = true := by
  rw [Nat.toString_eq_ofList_toDigits, String.toList_ofList] at h
  exact Nat.isDigit_of_mem_toDigits (by decide) (by decide) h

theorem ofDigitChars_toString (n : ℕ) : Nat.ofDigitChars 10 (toString n).toList 0 = n := by
  rw [Nat.toString_eq_ofList_toDigits, String.toList_ofList, Nat.ofDigitChars_ten_toDigits]

theorem toString_inj {m n : ℕ} (h : (toString m).toList = (toString n).toList) : m = n := by
  rw [← ofDigitChars_toString m, h, ofDigitChars_toString]

/-- A number is read back up to a character that is no digit. -/
theorem toString_append_inj {m n : ℕ} {s t : String} (hs : ∀ c ∈ s.toList.head?, c.isDigit = false)
    (ht : ∀ c ∈ t.toList.head?, c.isDigit = false) :
    toString m ++ s = toString n ++ t ↔ m = n ∧ s = t := by
  refine ⟨fun h => ?_, fun ⟨hm, hs⟩ => by rw [hm, hs]⟩
  have hlist := congrArg String.toList h
  rw [String.toList_append, String.toList_append] at hlist
  obtain ⟨hnumber, hrest⟩ := span_inj ⟨fun _ => isDigit_of_mem_toString, hs⟩
    ⟨fun _ => isDigit_of_mem_toString, ht⟩ hlist
  exact ⟨toString_inj hnumber, String.toList_inj.1 hrest⟩

/-! ### Lines -/

/-- A text without line ends. -/
def OneLine (s : String) : Prop := '\n' ∉ s.toList

instance (s : String) : Decidable (OneLine s) := inferInstanceAs (Decidable ('\n' ∉ s.toList))

theorem oneLine_append_iff {s t : String} : OneLine (s ++ t) ↔ OneLine s ∧ OneLine t := by
  simp only [OneLine, String.toList_append, List.mem_append, not_or]

theorem oneLine_toString (n : ℕ) : OneLine (toString n) := fun h =>
  absurd (isDigit_of_mem_toString h) (by decide)

theorem joinLines_inj {lines lines' : List String} (hne : lines ≠ []) (hne' : lines' ≠ [])
    (h : ∀ line ∈ lines, OneLine line) (h' : ∀ line ∈ lines', OneLine line) :
    "\n".intercalate lines = "\n".intercalate lines' ↔ lines = lines' := by
  refine ⟨fun heq => ?_, fun heq => by rw [heq]⟩
  have hsplit : ∀ {lines : List String}, lines ≠ [] → (∀ line ∈ lines, OneLine line) →
      ("\n".intercalate lines).toList.splitOn '\n' = lines.map String.toList := by
    intro lines hne h
    rw [String.toList_intercalate]
    refine List.splitOn_intercalate '\n' (fun l hl => ?_) (by simpa using hne)
    obtain ⟨line, hline, rfl⟩ := List.mem_map.1 hl
    exact h line hline
  refine List.map_injective_iff.2 (fun _ _ => String.toList_inj.1) ?_
  rw [← hsplit hne h, ← hsplit hne' h', heq]

end GivenWhenThen.Text
