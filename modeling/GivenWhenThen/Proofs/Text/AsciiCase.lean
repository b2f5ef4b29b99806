import Mathlib.Data.List.Forall2
import GivenWhenThen.Fault.Message
import GivenWhenThen.Proofs.Text.Lowercase

/-! The case of ASCII letters in texts that are compared up to case. The two cases of a letter have
one lowercase form, and they play the same part where a capital sigma is looked at for the end of a
word. By `lowercase_eq_of_sameLetters` texts that differ only in the case of such letters have the
same lowercase form, and by `holds_of_sameLetters` the comparisons do not tell them apart. -/

namespace GivenWhenThen

namespace Text

open Unicode

/-- The same character, or an ASCII letter in its other case. -/
def SameLetter (c d : Char) : Prop := d = c ∨ d = c.toUpper ∨ d = c.toLower

instance : DecidableRel SameLetter := fun c d =>
  inferInstanceAs (Decidable (d = c ∨ d = c.toUpper ∨ d = c.toLower))

/-- The texts differ at most in the case of ASCII letters. -/
def SameLetters (s t : String) : Prop := List.Forall₂ SameLetter s.toList t.toList

instance : DecidableRel SameLetters := fun s t =>
  inferInstanceAs (Decidable (List.Forall₂ SameLetter s.toList t.toList))

/-- The characters count for the same in making a text lowercase. -/
structure Alike (c d : Char) : Prop where
  lowercaseAt (before after : List Char) : lowercaseAt before d after = lowercaseAt before c after
  isCased : isCased d = isCased c
  isCaseIgnorable : isCaseIgnorable d = isCaseIgnorable c

variable {c d : Char} {before before' after after' l l' : List Char}

/-! ### Single characters -/

theorem Alike.refl (c : Char) : Alike c c := ⟨fun _ _ => rfl, rfl, rfl⟩

theorem Alike.symm (h : Alike c d) : Alike d c :=
  ⟨fun before after => (h.lowercaseAt before after).symm, h.isCased.symm, h.isCaseIgnorable.symm⟩

/-- The `n`-th letter in its two cases. -/
theorem alike_letter {n : ℕ} (h : n < 26) : Alike (Char.ofNat (65 + n)) (Char.ofNat (97 + n)) where
  lowercaseAt before after := by
    have hsigma : ∀ n < 26, Char.ofNat (65 + n) ≠ 'Σ' ∧ Char.ofNat (97 + n) ≠ 'Σ' := by decide
    have hdotted : ∀ n < 26, Char.ofNat (65 + n) ≠ 'İ' ∧ Char.ofNat (97 + n) ≠ 'İ' := by decide
    have hforms : ∀ n < 26,
        lowercaseChar (Char.ofNat (97 + n)) = lowercaseChar (Char.ofNat (65 + n)) := by decide
    rw [lowercaseAt, lowercaseAt, if_neg (hsigma n h).1, if_neg (hsigma n h).2,
      if_neg (hdotted n h).1, if_neg (hdotted n h).2, hforms n h]
  isCased := by
    have hcased : ∀ n < 26, isCased (Char.ofNat (97 + n)) = isCased (Char.ofNat (65 + n)) := by
      decide
    exact hcased n h
  isCaseIgnorable := by
    have hignorable : ∀ n < 26,
        isCaseIgnorable (Char.ofNat (97 + n)) = isCaseIgnorable (Char.ofNat (65 + n)) := by decide
    exact hignorable n h

theorem exists_letter {first : ℕ} (h : first ≤ c.toNat ∧ c.toNat ≤ first + 25) :
    ∃ n < 26, c = Char.ofNat (first + n) :=
  ⟨c.toNat - first, by omega, by rw [Nat.add_sub_cancel' h.1, Char.ofNat_toNat]⟩

theorem alike_toUpper (c : Char) : Alike c c.toUpper := by
  by_cases h : 97 ≤ c.toNat ∧ c.toNat ≤ 122
  · obtain ⟨n, hn, rfl⟩ := exists_letter h
    have hupper : ∀ n < 26, (Char.ofNat (97 + n)).toUpper = Char.ofNat (65 + n) := by decide
    rw [hupper n hn]
    exact (alike_letter hn).symm
  · have hupper : c.toUpper = c := dif_neg h
    rw [hupper]
    exact .refl c

theorem alike_toLower (c : Char) : Alike c c.toLower := by
  by_cases h : 65 ≤ c.toNat ∧ c.toNat ≤ 90
  · obtain ⟨n, hn, rfl⟩ := exists_letter h
    have hlower : ∀ n < 26, (Char.ofNat (65 + n)).toLower = Char.ofNat (97 + n) := by decide
    rw [hlower n hn]
    exact alike_letter hn
  · have hlower : c.toLower = c := dif_neg h
    rw [hlower]
    exact .refl c

theorem SameLetter.alike (h : SameLetter c d) : Alike c d := by
  rcases h with rfl | rfl | rfl
  · exact .refl d
  · exact alike_toUpper c
  · exact alike_toLower c

/-! ### Texts -/

theorem startsCased_of_alike (h : List.Forall₂ Alike l l') : startsCased l' = startsCased l := by
  induction h with
  | nil => rfl
  | cons hc _ ih => rw [startsCased_cons, startsCased_cons, hc.isCased, hc.isCaseIgnorable, ih]

theorem lowercaseAt_of_alike (hbefore : List.Forall₂ Alike before before') (hc : Alike c d)
    (hafter : List.Forall₂ Alike after after') :
    lowercaseAt before' d after' = lowercaseAt before c after := by
  rw [hc.lowercaseAt, lowercaseAt_eq_iff]
  intro _
  rw [endsWord, endsWord, startsCased_of_alike hbefore, startsCased_of_alike hafter]

theorem lowercaseAfter_of_alike (hbefore : List.Forall₂ Alike before before')
    (h : List.Forall₂ Alike l l') : lowercaseAfter before' l' = lowercaseAfter before l := by
  induction h generalizing before before' with
  | nil => rfl
  | cons hc hafter ih =>
    rw [lowercaseAfter, lowercaseAfter, lowercaseAt_of_alike hbefore hc hafter,
      ih (.cons hc hbefore)]

theorem lowercase_eq_of_sameLetters {s t : String} (h : SameLetters s t) :
    lowercase t = lowercase s := by
  rw [lowercase, lowercase,
    lowercaseAfter_of_alike .nil (List.Forall₂.imp (fun _ _ hc => hc.alike) h)]

end Text

namespace MessageMatch

open Text

/-- Neither comparison of texts tells apart texts that differ only in the case of ASCII letters, be
it in the expected text or in the message. Each accepts such a variant of the expected text. -/
theorem holds_of_sameLetters {expected expected' actual actual' : String}
    (hexpected : SameLetters expected expected') (hactual : SameLetters actual actual') :
    (equals expected').holds actual' = (equals expected).holds actual ∧
    (contains expected').holds actual' = (contains expected).holds actual ∧
    (equals expected).holds expected' = true ∧ (contains expected).holds expected' = true := by
  have hform := lowercase_eq_of_sameLetters hexpected
  refine ⟨?_, ?_, ?_, ?_⟩
  · rw [holds, holds, equalsIgnoringCase, equalsIgnoringCase, hform,
      lowercase_eq_of_sameLetters hactual]
  · rw [holds, holds, containsIgnoringCase, containsIgnoringCase, hform,
      lowercase_eq_of_sameLetters hactual]
  · rw [holds, equalsIgnoringCase, hform, beq_iff_eq]
  · rw [holds, containsIgnoringCase, hform, occursIn_iff]

/-- The capital sigma ends a word in both variants. -/
theorem holds_of_sameLetters_order :
    SameLetters "idΣ" "IDΣ" ∧ SameLetters "No IDΣ." "NO idΣ." ∧
      (contains "idΣ").holds "No IDΣ." = true ∧ (contains "IDΣ").holds "NO idΣ." = true ∧
      (equals "idΣ").holds "IDΣ" = true := by
  have hexpected : SameLetters "idΣ" "IDΣ" := by decide
  have hactual : SameLetters "No IDΣ." "NO idΣ." := by decide
  obtain ⟨-, hcontains, hequals, -⟩ := holds_of_sameLetters hexpected hactual
  have hplain : (contains "idΣ").holds "No IDΣ." = true := by decide
  exact ⟨hexpected, hactual, hplain, hcontains.trans hplain, hequals⟩

end MessageMatch

end GivenWhenThen
