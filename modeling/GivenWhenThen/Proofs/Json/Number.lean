import GivenWhenThen.Json.Basic
import GivenWhenThen.Proofs.Decimal.Interval

/-! The texts of numbers. `LawfulFloatText` says what is asked of the texts of floats, so that
different numbers have different texts, by `Number.text_inj`. The shortest decimals have what is
asked: such a float is known by its sign and the decimal of its absolute value, both of which are
read back from the text, and the text of an integer has neither a point nor a power of ten. -/

namespace GivenWhenThen

open Decimal Text

/-- Floats are written as numbers, each otherwise than all others, and than all integers. -/
class LawfulFloatText [FloatText] : Prop where
  text_inj {x y : Binary64} (h : FloatText.text x = FloatText.text y) : x = y
  text_ne_int (x : Binary64) (n : ℤ) : FloatText.text x ≠ toString n
  text_ne_nil (x : Binary64) : (FloatText.text x).toList ≠ []
  isNumberChar_of_mem {x : Binary64} {c : Char} (h : c ∈ (FloatText.text x).toList) :
    isNumberChar c = true

/-! ### Signs -/

namespace Number

/-- The sign of a number, written only if it is negative. -/
def sign (negative : Bool) : List Char := if negative then ['-'] else []

theorem sign_append_inj {negative negative' : Bool} {l m : List Char}
    (hl : ∀ c ∈ l.head?, c ≠ '-') (hm : ∀ c ∈ m.head?, c ≠ '-')
    (h : sign negative ++ l = sign negative' ++ m) : negative = negative' ∧ l = m := by
  cases negative with
  | false =>
    cases negative' with
    | false => exact ⟨rfl, h⟩
    | true => exact absurd rfl (hl '-' (by simpa [sign] using congrArg List.head? h))
  | true =>
    cases negative' with
    | false => exact absurd rfl (hm '-' (by simpa [sign] using congrArg List.head? h.symm))
    | true => exact ⟨rfl, (List.cons.inj h).2⟩

theorem isNumberChar_of_mem_sign {negative : Bool} {c : Char} (h : c ∈ sign negative) :
    isNumberChar c = true := by
  cases negative with
  | false => cases h
  | true =>
    rw [List.mem_singleton.1 h]
    decide

end Number

/-! ### Integers -/

namespace Number

theorem toList_toString (n : ℤ) :
    (toString n).toList = sign (decide (n < 0)) ++ (toString n.natAbs).toList := by
  cases n with
  | ofNat n => rfl
  | negSucc n =>
    have hneg : decide (Int.negSucc n < 0) = true := decide_eq_true (Int.negSucc_lt_zero n)
    rw [hneg]
    exact String.toList_append

/-- A whole number has neither a point nor a power of ten. -/
theorem isDigit_or_eq_of_mem {n : ℤ} {c : Char} (h : c ∈ (toString n).toList) :
    c.isDigit = true ∨ c = '-' := by
  rw [toList_toString, List.mem_append] at h
  rcases h with h | h
  · rw [sign] at h
    split at h
    · exact .inr (List.mem_singleton.1 h)
    · cases h
  · exact .inl (isDigit_of_mem_toString h)

theorem toString_int_inj {m n : ℤ} (h : toString m = toString n) : m = n := by
  have hdigit : ∀ {n : ℕ}, ∀ c ∈ (toString n).toList.head?, c ≠ '-' := by
    intro n c hc heq
    have hdigit := isDigit_of_mem_toString (List.mem_of_mem_head? hc)
    rw [heq] at hdigit
    exact absurd hdigit (by decide)
  have hlist := congrArg String.toList h
  rw [toList_toString, toList_toString] at hlist
  obtain ⟨hsign, habs⟩ := sign_append_inj hdigit hdigit hlist
  have hneg : m < 0 ↔ n < 0 := decide_eq_decide.1 hsign
  have hnat : m.natAbs = n.natAbs := toString_inj habs
  omega

end Number

/-! ### Floats -/

namespace Binary64

variable {x y : Binary64}

/-- The bits without the sign, in the order of the absolute values. -/
def magnitude (x : Binary64) : ℕ := x.bits.toNat % 2 ^ 63

theorem isZero_iff : x.isZero = true ↔ x.magnitude = 0 := by
  rw [isZero, beq_iff_eq, ← UInt64.toNat_inj, UInt64.toNat_shiftLeft, Nat.shiftLeft_eq, magnitude]
  change x.bits.toNat * 2 ^ 1 % 2 ^ 64 = 0 ↔ _
  omega

theorem isNegative_iff : x.isNegative = true ↔ 2 ^ 63 ≤ x.bits.toNat := by
  rw [isNegative, bne_iff_ne, ne_eq, ← UInt64.toNat_inj, UInt64.toNat_shiftRight,
    Nat.shiftRight_eq_div_pow]
  change ¬x.bits.toNat / 2 ^ 63 = 0 ↔ _
  omega

theorem eq_of_isNegative_eq (hsign : x.isNegative = y.isNegative)
    (hmagnitude : x.magnitude = y.magnitude) : x = y := by
  have hiff : 2 ^ 63 ≤ x.bits.toNat ↔ 2 ^ 63 ≤ y.bits.toNat := by
    rw [← isNegative_iff, ← isNegative_iff, hsign]
  have hx := x.bits.toNat_lt
  have hy := y.bits.toNat_lt
  have hbits : x.bits.toNat = y.bits.toNat := by
    rw [magnitude, magnitude] at hmagnitude
    omega
  exact congrArg mk (UInt64.toNat_inj.1 hbits)

/-- The digits of the absolute value. -/
def digits (x : Binary64) : Digits :=
  if x.isZero then .ofNat 0 0 else (Binary.ofBits x.bits).shortest

theorem digits_of_isZero (h : x.isZero = true) : x.digits = .ofNat 0 0 :=
  if_pos h

theorem digits_of_not_isZero (h : ¬x.isZero = true) :
    x.digits = (Binary.ofBits x.bits).shortest :=
  if_neg h

theorem valid_digits (x : Binary64) : x.digits.Valid := by
  rw [digits]
  split
  · exact Digits.valid_ofNat
  · exact Binary.valid_shortest _

/-- The numeral behind the sign. -/
def numeral (x : Binary64) : Numeral := layout.numeral x.digits

theorem valid_numeral (x : Binary64) : x.numeral.Valid :=
  Layout.valid_numeral layout x.valid_digits

theorem toList_text (x : Binary64) :
    x.text.toList = Number.sign x.isNegative ++ x.numeral.chars := by
  have hsign : (if x.isNegative then "-" else "").toList = Number.sign x.isNegative := by
    rw [Number.sign]
    split
    · rfl
    · rfl
  have hdigits : (if x.isZero then "0.0" else layout.write (Binary.ofBits x.bits).shortest) =
      layout.write x.digits := by
    rw [digits]
    split
    · decide
    · rfl
  rw [text, String.toList_append, hsign, hdigits, numeral, Layout.chars_numeral]

theorem rounds_of_not_isZero (h : ¬x.isZero = true) :
    (Binary.ofMagnitude x.magnitude).Rounds x.digits.value := by
  have hpos : 0 < x.magnitude := Nat.pos_of_ne_zero fun hzero => h (isZero_iff.2 hzero)
  rw [digits_of_not_isZero h, Binary.ofBits_eq]
  exact Binary.rounds_shortest (Binary.mantissa_pos hpos)

theorem value_eq_zero_iff : x.digits.value = 0 ↔ x.isZero = true := by
  constructor
  · intro hvalue
    by_contra h
    have hpos : 0 < x.magnitude := Nat.pos_of_ne_zero fun hzero => h (isZero_iff.2 hzero)
    have hlower := (rounds_of_not_isZero h).lower_le
    rw [hvalue] at hlower
    exact absurd (Binary.lower_pos (Binary.mantissa_pos hpos)) (not_lt.2 hlower)
  · intro h
    rw [digits_of_isZero h, Digits.value_ofNat, Nat.cast_zero, zero_mul]

/-- The digits tell the absolute value. -/
theorem magnitude_eq_of_value_eq (h : x.digits.value = y.digits.value) :
    x.magnitude = y.magnitude := by
  by_cases hx : x.isZero = true
  · have hy : y.isZero = true := by rwa [← value_eq_zero_iff, ← h, value_eq_zero_iff]
    rw [isZero_iff.1 hx, isZero_iff.1 hy]
  · have hy : ¬y.isZero = true := by rwa [← value_eq_zero_iff, ← h, value_eq_zero_iff]
    exact Binary.rounds_unique (rounds_of_not_isZero hx) (h ▸ rounds_of_not_isZero hy)

/-- Different floats have different texts. -/
theorem text_inj (h : x.text = y.text) : x = y := by
  have hlist := congrArg String.toList h
  rw [toList_text, toList_text] at hlist
  obtain ⟨hsign, hchars⟩ := Number.sign_append_inj
    (fun _ => Numeral.ne_minus_of_mem_head? x.valid_numeral)
    (fun _ => Numeral.ne_minus_of_mem_head? y.valid_numeral) hlist
  have hnumeral := Numeral.chars_inj x.valid_numeral y.valid_numeral hchars
  have hvalue : x.digits.value = y.digits.value := by
    rw [← Layout.value_numeral layout, ← Layout.value_numeral layout]
    exact congrArg Numeral.value hnumeral
  exact eq_of_isNegative_eq hsign (magnitude_eq_of_value_eq hvalue)

theorem isNumberChar_of_mem {c : Char} (h : c ∈ x.text.toList) : isNumberChar c = true := by
  rw [toList_text, List.mem_append] at h
  exact h.elim Number.isNumberChar_of_mem_sign (Numeral.isNumberChar_of_mem x.valid_numeral)

theorem exists_mem_text (x : Binary64) : ∃ c ∈ x.text.toList, c = '.' ∨ c = 'e' := by
  have hmarked : x.numeral.Marked := Layout.marked_numeral ..
  obtain ⟨c, hmem, hc⟩ := hmarked.exists_mem
  exact ⟨c, by rw [toList_text]; exact List.mem_append_right _ hmem, hc⟩

theorem text_ne_toString (x : Binary64) (n : ℤ) : x.text ≠ toString n := by
  intro heq
  obtain ⟨c, hmem, hc⟩ := x.exists_mem_text
  rw [heq] at hmem
  have hint := Number.isDigit_or_eq_of_mem hmem
  rcases hc with rfl | rfl
  · exact absurd hint (by decide)
  · exact absurd hint (by decide)

instance : LawfulFloatText where
  text_inj := text_inj
  text_ne_int := text_ne_toString
  text_ne_nil x := by
    obtain ⟨c, hmem, -⟩ := x.exists_mem_text
    exact List.ne_nil_of_mem hmem
  isNumberChar_of_mem := isNumberChar_of_mem

end Binary64

/-! ### Numbers -/

namespace Number

variable [FloatText] [LawfulFloatText] {m n : Number}

/-- Different numbers have different texts. -/
theorem text_inj (h : m.text = n.text) : m = n := by
  cases m with
  | int m =>
    cases n with
    | int n => rw [toString_int_inj h]
    | float y => exact absurd h.symm (LawfulFloatText.text_ne_int y m)
  | float x =>
    cases n with
    | int n => exact absurd h (LawfulFloatText.text_ne_int x n)
    | float y => rw [LawfulFloatText.text_inj h]

theorem isNumberChar_of_mem {c : Char} (h : c ∈ n.text.toList) : isNumberChar c = true := by
  cases n with
  | int n =>
    rcases isDigit_or_eq_of_mem h with hdigit | rfl
    · exact isNumberChar_of_isDigit hdigit
    · decide
  | float x => exact LawfulFloatText.isNumberChar_of_mem h

theorem toList_text_ne_nil (n : Number) : n.text.toList ≠ [] := by
  cases n with
  | int n =>
    rw [text, toList_toString, Nat.toString_eq_ofList_toDigits, String.toList_ofList]
    exact List.append_ne_nil_of_right_ne_nil _ Nat.toDigits_ne_nil
  | float x => exact LawfulFloatText.text_ne_nil x

end Number

end GivenWhenThen
