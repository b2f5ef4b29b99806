import GivenWhenThen.Fault.Message
import GivenWhenThen.Proofs.Text.Lowercase

/-! When a message that holds a text contains it up to case. Both are brought to lowercase as
wholes, and a capital sigma that ends the text may stand inside a word of the message. By
`contains_holds_append` the text is found where each of its capital sigmas ends a word in the
message just if it does in the text alone, and `not_contains_holds_cut` gives a text that is not
found. -/

namespace GivenWhenThen

namespace Text

/-- Each capital sigma of a part ends a word between the characters around the part just if it does
in the part alone. -/
def KeepsWordEnds (before part after : List Char) : Prop :=
  ∀ u v, part = u ++ 'Σ' :: v →
    endsWord (u.reverse ++ before.reverse) (v ++ after) = endsWord u.reverse v

variable {before part after : List Char}

theorem keepsWordEnds_of_not_mem (h : 'Σ' ∉ part) : KeepsWordEnds before part after := by
  rintro u v rfl
  simp at h

/-- A part between characters that are not the inside of a word. -/
theorem keepsWordEnds_of_apart (hbefore : startsCased before.reverse = false)
    (hafter : startsCased after = false) : KeepsWordEnds before part after := by
  intro u v _
  rw [endsWord, endsWord, startsCased_append_of_not hbefore, startsCased_append_of_not hafter]

theorem keepsWordEnds_iff :
    KeepsWordEnds before part after ↔
      lowercaseBetween before.reverse part after = lowercaseAfter [] part := by
  rw [← lowercaseBetween_nil, lowercaseBetween_eq_iff]
  simp only [KeepsWordEnds, List.append_nil]

theorem length_lowercaseBetween {before' after' : List Char} :
    (lowercaseBetween before part after).length =
      (lowercaseBetween before' part after').length := by
  induction part generalizing before before' with
  | nil => rfl
  | cons c part ih =>
    rw [lowercaseBetween, lowercaseBetween, List.length_append, List.length_append, ih,
      length_lowercaseAt]

/-- The lowercase form of a text as those of its parts. -/
theorem toList_lowercase_append (before part after : String) :
    (lowercase (before ++ part ++ after)).toList =
      lowercaseBetween [] before.toList (part.toList ++ after.toList) ++
        (lowercaseBetween before.toList.reverse part.toList after.toList ++
          lowercaseAfter (part.toList.reverse ++ before.toList.reverse) after.toList) := by
  rw [lowercase, String.toList_ofList, String.toList_append, String.toList_append,
    List.append_assoc, lowercaseAfter_append, lowercaseAfter_append, List.append_nil]

/-- The lowercase form of a part stands in that of the text in its own place. -/
theorem exists_lowercase_eq_iff {before part after : String} :
    (∃ left right : String, lowercase (before ++ part ++ after) = left ++ lowercase part ++ right ∧
        left.length = (lowercase before).length) ↔
      KeepsWordEnds before.toList part.toList after.toList := by
  have hbefore : (lowercaseBetween [] before.toList (part.toList ++ after.toList)).length =
      (lowercase before).length := by
    rw [lowercase, String.length_ofList, ← lowercaseBetween_nil]
    exact length_lowercaseBetween
  rw [keepsWordEnds_iff]
  constructor
  · rintro ⟨left, right, hwhole, hleft⟩
    have hlists := congrArg String.toList hwhole
    rw [toList_lowercase_append, String.toList_append, String.toList_append, List.append_assoc,
      lowercase, String.toList_ofList] at hlists
    rw [← hbefore, ← String.length_toList] at hleft
    obtain ⟨-, hbehind⟩ := List.append_inj hlists hleft.symm
    refine (List.append_inj hbehind ?_).1
    rw [← lowercaseBetween_nil]
    exact length_lowercaseBetween
  · intro hpart
    refine ⟨String.ofList (lowercaseBetween [] before.toList (part.toList ++ after.toList)),
      String.ofList (lowercaseAfter (part.toList.reverse ++ before.toList.reverse) after.toList),
      String.toList_inj.1 ?_, ?_⟩
    · rw [toList_lowercase_append, hpart, String.toList_append, String.toList_append,
        String.toList_ofList, String.toList_ofList, lowercase, String.toList_ofList,
        List.append_assoc]
    · rw [String.length_ofList, hbefore]

end Text

namespace MessageMatch

open Text

/-- A text is found in a message that holds it if each of its capital sigmas ends a word there just
if it does in the text alone, which is to say that the lowercase form of the text stands in that of
the message in the place of the text. This is so if the text has no capital sigma, and if no cased
character comes right before or right behind it. -/
theorem contains_holds_append (before expected after : String) :
    (KeepsWordEnds before.toList expected.toList after.toList →
      (contains expected).holds (before ++ expected ++ after) = true) ∧
    (KeepsWordEnds before.toList expected.toList after.toList ↔
      ∃ left right : String, lowercase (before ++ expected ++ after) =
          left ++ lowercase expected ++ right ∧
        left.length = (lowercase before).length) ∧
    ('Σ' ∉ expected.toList → KeepsWordEnds before.toList expected.toList after.toList) ∧
    (startsCased before.toList.reverse = false → startsCased after.toList = false →
      KeepsWordEnds before.toList expected.toList after.toList) := by
  refine ⟨fun h => ?_, exists_lowercase_eq_iff.symm, keepsWordEnds_of_not_mem,
    keepsWordEnds_of_apart⟩
  obtain ⟨left, right, hwhole, -⟩ := exists_lowercase_eq_iff.2 h
  rw [holds, containsIgnoringCase, occursIn_iff, hwhole, String.toList_append, String.toList_append]
  exact ⟨_, _, rfl⟩

/-- The text ends inside a word of the message, where its sigma is not a final one. -/
theorem not_contains_holds_cut :
    ¬∀ before expected after : String,
      (contains expected).holds (before ++ expected ++ after) = true := by
  intro h
  have hcut : (contains "ΑΣ").holds ("" ++ "ΑΣ" ++ "Α") = false := by decide
  rw [h] at hcut
  cases hcut

/-- The text is a word of the message. -/
theorem contains_holds_append_street :
    startsCased "Η ".toList.reverse = false ∧ startsCased " 7".toList = false ∧
      (contains "ΟΔΟΣ").holds "Η ΟΔΟΣ 7" = true := by
  have hbefore : startsCased "Η ".toList.reverse = false := by decide
  have hafter : startsCased " 7".toList = false := by decide
  obtain ⟨hholds, -, -, hapart⟩ := contains_holds_append "Η " "ΟΔΟΣ" " 7"
  exact ⟨hbefore, hafter, hholds (hapart hbefore hafter)⟩

end MessageMatch

end GivenWhenThen
