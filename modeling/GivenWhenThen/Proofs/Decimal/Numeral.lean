import GivenWhenThen.Decimal.Shortest
import GivenWhenThen.Proofs.Text.Span
import Mathlib.Algebra.Order.Field.Rat
import Mathlib.Data.List.DropRight
import Mathlib.Tactic.FieldSimp

/-! Decimal numerals, as texts and as numbers. A `Numeral` has the parts of a written number, which
are read back from its characters by `Numeral.chars_inj`. `Layout.numeral` is the numeral that a
layout writes: it has the characters of the text and the value of the digits, by
`Layout.chars_numeral` and `Layout.value_numeral`. -/

namespace GivenWhenThen.Decimal

open Text

/-! ### The number of digits -/

/-- The whole number that digits stand for. -/
def whole (digits : List Char) : ℕ := Nat.ofDigitChars 10 digits 0

theorem whole_append (l l' : List Char) :
    whole (l ++ l') = whole l * 10 ^ l'.length + whole l' := by
  rw [whole, Nat.ofDigitChars_append, Nat.ofDigitChars_eq_ofDigitChars_zero, mul_comm, whole, whole]

theorem whole_replicate_zero (k : ℕ) : whole (List.replicate k '0') = 0 := by
  rw [whole, Nat.ofDigitChars_replicate_zero, mul_zero]

theorem whole_zeros_append (k : ℕ) (l : List Char) :
    whole (List.replicate k '0' ++ l) = whole l := by
  rw [whole_append, whole_replicate_zero, zero_mul, zero_add]

theorem whole_append_zeros (l : List Char) (k : ℕ) :
    whole (l ++ List.replicate k '0') = whole l * 10 ^ k := by
  rw [whole_append, whole_replicate_zero, add_zero, List.length_replicate]

namespace Digits

/-- The number that a decimal stands for: the whole number of its digits, times the power of ten of
the last of them. -/
def value (d : Digits) : ℚ := whole d.digits * 10 ^ (d.leading + 1 - d.digits.length)

/-- The digits are decimal ones. -/
def Valid (d : Digits) : Prop := ∀ c ∈ d.digits, c.isDigit = true

variable {n : ℕ} {place : ℤ}

theorem value_ofNat : (ofNat n place).value = n * 10 ^ place := by
  -- The zeros left off at the end are a power of ten, which goes to the place of the last digit.
  set digits := Nat.toDigits 10 n with hdigits
  set significant := digits.rdropWhile (· == '0') with hsignificant
  set zeros := digits.rtakeWhile (· == '0') with hzeros
  obtain ⟨k, hk⟩ : ∃ k, zeros = List.replicate k '0' :=
    ⟨_, List.eq_replicate_of_mem fun c hc => by simpa using List.mem_rtakeWhile_imp hc⟩
  have hsplit : digits = significant ++ List.replicate k '0' := by
    rw [← hk, hsignificant, hzeros, List.rdropWhile_append_rtakeWhile]
  have hn : n = whole significant * 10 ^ k := by
    rw [← Nat.ofDigitChars_ten_toDigits (n := n), ← hdigits, hsplit]
    exact whole_append_zeros _ _
  have hlength : digits.length = significant.length + k := by
    conv_lhs => rw [hsplit]
    rw [List.length_append, List.length_replicate]
  change whole significant * (10 : ℚ) ^ (place + digits.length - 1 + 1 - significant.length) = _
  rw [hlength, hn]
  push_cast
  rw [mul_assoc, ← zpow_natCast, ← zpow_add₀ (by norm_num)]
  congr 2
  omega

theorem valid_ofNat : (ofNat n place).Valid := by
  intro c hc
  have hmem : c ∈ (Nat.toDigits 10 n).rdropWhile (· == '0') := hc
  exact Nat.isDigit_of_mem_toDigits (by decide) (by decide)
    ((List.rdropWhile_prefix _ _).subset hmem)

end Digits

/-! ### Numerals -/

/-- The characters of numbers. -/
def isNumberChar (c : Char) : Bool := c.isDigit || c ∈ ['-', '+', '.', 'e']

theorem isNumberChar_of_isDigit {c : Char} (h : c.isDigit = true) : isNumberChar c = true := by
  rw [isNumberChar, h, Bool.true_or]

/-- The parts of a written number: the digits before the point, those behind it if there is one, and
the power of ten if one is written. -/
structure Numeral where
  before : List Char
  after? : Option (List Char) := none
  power? : Option ℤ := none

namespace Numeral

/-- The point and the digits behind it. -/
def pointChars : Option (List Char) → List Char
  | none => []
  | some after => '.' :: after

/-- The power of ten with its sign. -/
def powerChars : Option ℤ → List Char
  | none => []
  | some k => 'e' :: (if k < 0 then '-' else '+') :: (toString k.natAbs).toList

def chars (n : Numeral) : List Char := n.before ++ (pointChars n.after? ++ powerChars n.power?)

/-- The number that a numeral stands for. -/
def value (n : Numeral) : ℚ :=
  whole (n.before ++ n.after?.getD []) * 10 ^ (n.power?.getD 0 - (n.after?.getD []).length)

/-- There are digits before the point and behind it, and nothing else. -/
structure Valid (n : Numeral) : Prop where
  before : ∀ c ∈ n.before, c.isDigit = true
  after : ∀ after ∈ n.after?, ∀ c ∈ after, c.isDigit = true

variable {n n' : Numeral}

theorem powerChars_inj {k l : Option ℤ} (h : powerChars k = powerChars l) : k = l := by
  cases k with
  | none =>
    cases l with
    | none => rfl
    | some => cases h
  | some k =>
    cases l with
    | none => cases h
    | some l =>
      obtain ⟨hsign, hdigits⟩ := List.cons.inj (List.cons.inj h).2
      have habs : k.natAbs = l.natAbs := toString_inj hdigits
      have hneg : k < 0 ↔ l < 0 := by
        by_cases hk : k < 0 <;> by_cases hl : l < 0 <;> simp [hk, hl] at hsign ⊢
      exact congrArg some (by omega)

theorem eq_e_of_mem_head? {k : Option ℤ} {c : Char} (h : c ∈ (powerChars k).head?) : c = 'e' := by
  cases k with
  | none => cases h
  | some => exact (Option.some.inj h).symm

/-- The digits before the point end at the point, at the power or at the end. -/
theorem span_before (h : n.Valid) :
    Span Char.isDigit n.before (pointChars n.after? ++ powerChars n.power?) := by
  refine ⟨h.before, fun c hc => ?_⟩
  cases hafter : n.after? with
  | none =>
    rw [hafter, pointChars, List.nil_append] at hc
    rw [eq_e_of_mem_head? hc]
    decide
  | some after =>
    rw [hafter, pointChars, List.cons_append] at hc
    rw [← Option.some.inj hc]
    decide

/-- A numeral is read back from its characters. -/
theorem chars_inj (h : n.Valid) (h' : n'.Valid) (heq : n.chars = n'.chars) : n = n' := by
  obtain ⟨hbefore, hrest⟩ := span_inj (span_before h) (span_before h') heq
  have hafter := h.after
  have hafter' := h'.after
  obtain ⟨before, after?, power?⟩ := n
  obtain ⟨before', after?', power?'⟩ := n'
  dsimp only at hbefore hrest hafter hafter'
  have hspan : ∀ {digits : List Char} {k : Option ℤ}, (∀ c ∈ digits, c.isDigit = true) →
      Span Char.isDigit digits (powerChars k) := by
    intro digits k hdigits
    refine ⟨hdigits, fun c hc => ?_⟩
    rw [eq_e_of_mem_head? hc]
    decide
  have hpoint : ∀ {k : Option ℤ} {rest : List Char}, powerChars k ≠ '.' :: rest := by
    intro k rest heq
    have hhead : '.' ∈ (powerChars k).head? := by simp [heq]
    exact absurd (eq_e_of_mem_head? hhead) (by decide)
  cases after? with
  | none =>
    cases after?' with
    | none => rw [hbefore, powerChars_inj hrest]
    | some after' => exact absurd hrest hpoint
  | some after =>
    cases after?' with
    | none => exact absurd hrest.symm hpoint
    | some after' =>
      obtain ⟨rfl, hpower⟩ := span_inj (hspan (hafter after rfl)) (hspan (hafter' after' rfl))
        (List.cons.inj hrest).2
      rw [hbefore, powerChars_inj hpower]

/-! ### The characters of a numeral -/

theorem ne_minus_of_mem_head? (h : n.Valid) {c : Char} (hc : c ∈ n.chars.head?) : c ≠ '-' := by
  rintro rfl
  rw [chars] at hc
  cases hbefore : n.before with
  | nil =>
    rw [hbefore, List.nil_append] at hc
    cases hafter : n.after? with
    | none =>
      rw [hafter, pointChars, List.nil_append] at hc
      exact absurd (eq_e_of_mem_head? hc) (by decide)
    | some after =>
      rw [hafter] at hc
      exact absurd (Option.some.inj hc) (by decide)
  | cons digit before =>
    rw [hbefore] at hc
    have hdigit := h.before digit (by simp [hbefore])
    rw [Option.some.inj hc] at hdigit
    exact absurd hdigit (by decide)

/-- A numeral has a point or a power of ten, unlike a whole number. -/
def Marked (n : Numeral) : Prop := n.after? ≠ none ∨ n.power? ≠ none

theorem Marked.exists_mem (h : n.Marked) : ∃ c ∈ n.chars, c = '.' ∨ c = 'e' := by
  rcases h with h | h
  · obtain ⟨after, hafter⟩ := Option.ne_none_iff_exists'.1 h
    exact ⟨'.', by simp [chars, hafter, pointChars], .inl rfl⟩
  · obtain ⟨k, hpower⟩ := Option.ne_none_iff_exists'.1 h
    exact ⟨'e', by simp [chars, hpower, powerChars], .inr rfl⟩

theorem isNumberChar_of_mem (h : n.Valid) {c : Char} (hc : c ∈ n.chars) :
    isNumberChar c = true := by
  rw [chars, List.mem_append, List.mem_append] at hc
  rcases hc with hc | hc | hc
  · exact isNumberChar_of_isDigit (h.before c hc)
  · cases hafter : n.after? with
    | none =>
      rw [hafter] at hc
      cases hc
    | some after =>
      rw [hafter, pointChars, List.mem_cons] at hc
      rcases hc with rfl | hc
      · decide
      · exact isNumberChar_of_isDigit (h.after after hafter c hc)
  · cases hpower : n.power? with
    | none =>
      rw [hpower] at hc
      cases hc
    | some k =>
      rw [hpower, powerChars, List.mem_cons, List.mem_cons] at hc
      rcases hc with rfl | rfl | hc
      · decide
      · split <;> decide
      · exact isNumberChar_of_isDigit (isDigit_of_mem_toString hc)

end Numeral

/-! ### The numerals of a layout -/

namespace Digits

variable {d : Digits}

/-- The numeral with the point at its place. -/
def plainNumeral (d : Digits) : Numeral :=
  if d.leading < 0 then
    { before := List.replicate 1 '0'
      after? := some (List.replicate (-d.leading - 1).toNat '0' ++ d.digits) }
  else if d.digits.length ≤ d.leading.toNat + 1 then
    { before := d.digits ++ List.replicate (d.leading.toNat + 1 - d.digits.length) '0'
      after? := some (List.replicate 1 '0') }
  else
    { before := d.digits.take (d.leading.toNat + 1)
      after? := some (d.digits.drop (d.leading.toNat + 1)) }

/-- The numeral with the point after the first digit, if more follow. -/
def scientificNumeral (d : Digits) : Numeral where
  before := d.digits.take 1
  after? := if d.digits.drop 1 = [] then none else some (d.digits.drop 1)
  power? := some d.leading

theorem chars_plainNumeral : d.plainNumeral.chars = d.plain.toList := by
  rw [plain, plainNumeral]
  split_ifs with hneg hall
  · simp [Numeral.chars, Numeral.pointChars, Numeral.powerChars]
  · simp [Numeral.chars, Numeral.pointChars, Numeral.powerChars, hall, List.take_of_length_le hall]
  · have hplace : d.leading.toNat + 1 - d.digits.length = 0 := by omega
    simp [Numeral.chars, Numeral.pointChars, Numeral.powerChars, hall, hplace]

theorem chars_scientificNumeral : d.scientificNumeral.chars = d.scientific.toList := by
  have hsign : (if d.leading < 0 then "-" else "+").toList =
      [if d.leading < 0 then '-' else '+'] := by
    split <;> rfl
  rw [scientific, scientificNumeral]
  by_cases hone : d.digits.drop 1 = []
  · simp [Numeral.chars, Numeral.pointChars, Numeral.powerChars, hone, hsign, -List.drop_one]
  · simp [Numeral.chars, Numeral.pointChars, Numeral.powerChars, hone, hsign, -List.drop_one]

theorem valid_plainNumeral (hd : d.Valid) : d.plainNumeral.Valid := by
  have hzero : ∀ {k : ℕ}, ∀ c ∈ List.replicate k '0', c.isDigit = true := by
    intro k c hc
    rw [List.eq_of_mem_replicate hc]
    decide
  rw [plainNumeral]
  split_ifs with hneg hall
  · refine ⟨hzero, fun after hafter => ?_⟩
    rw [← Option.some.inj hafter]
    exact List.forall_mem_append.2 ⟨hzero, hd⟩
  · refine ⟨List.forall_mem_append.2 ⟨hd, hzero⟩, fun after hafter => ?_⟩
    rw [← Option.some.inj hafter]
    exact hzero
  · refine ⟨fun c hc => hd c (List.mem_of_mem_take hc), fun after hafter c hc => ?_⟩
    rw [← Option.some.inj hafter] at hc
    exact hd c (List.mem_of_mem_drop hc)

theorem valid_scientificNumeral (hd : d.Valid) : d.scientificNumeral.Valid := by
  refine ⟨fun c hc => hd c (List.mem_of_mem_take hc), fun after hafter c hc => ?_⟩
  rw [scientificNumeral] at hafter
  split at hafter
  · cases hafter
  · rw [← Option.some.inj hafter] at hc
    exact hd c (List.mem_of_mem_drop hc)

theorem value_plainNumeral : d.plainNumeral.value = d.value := by
  rw [plainNumeral, value]
  split_ifs with hneg hall
  · simp only [Numeral.value, Option.getD_some, Option.getD_none, whole_zeros_append,
      List.length_append, List.length_replicate]
    congr 2
    push_cast
    omega
  · simp only [Numeral.value, Option.getD_some, Option.getD_none, whole_append_zeros,
      List.length_replicate]
    have hunit : (10 : ℚ) * 10 ^ (-1 : ℤ) = 1 := by norm_num
    push_cast
    rw [mul_assoc, mul_assoc, hunit, mul_one, ← zpow_natCast]
    congr 2
    omega
  · simp only [Numeral.value, Option.getD_some, Option.getD_none, List.take_append_drop,
      List.length_drop]
    congr 2
    omega

theorem value_scientificNumeral : d.scientificNumeral.value = d.value := by
  have hafter : (if d.digits.drop 1 = [] then none else some (d.digits.drop 1)).getD [] =
      d.digits.drop 1 := by
    split
    · next hone => rw [hone, Option.getD_none]
    · rfl
  simp only [scientificNumeral, Numeral.value, value, hafter, Option.getD_some,
    List.take_append_drop, List.length_drop]
  cases hdigits : d.digits with
  | nil => rw [whole, Nat.ofDigitChars_nil, Nat.cast_zero, zero_mul, zero_mul]
  | cons c digits =>
    congr 2
    rw [List.length_cons]
    omega

end Digits

namespace Layout

/-- The numeral that the layout writes. -/
def numeral (layout : Layout) (d : Digits) : Numeral :=
  if layout.plainFrom ≤ d.leading ∧ d.leading < layout.plainBelow then d.plainNumeral
  else d.scientificNumeral

theorem chars_numeral (layout : Layout) (d : Digits) :
    (layout.numeral d).chars = (layout.write d).toList := by
  rw [numeral, write]
  split
  · exact Digits.chars_plainNumeral
  · exact Digits.chars_scientificNumeral

theorem value_numeral (layout : Layout) (d : Digits) : (layout.numeral d).value = d.value := by
  rw [numeral]
  split
  · exact Digits.value_plainNumeral
  · exact Digits.value_scientificNumeral

theorem valid_numeral (layout : Layout) {d : Digits} (hd : d.Valid) :
    (layout.numeral d).Valid := by
  rw [numeral]
  split
  · exact Digits.valid_plainNumeral hd
  · exact Digits.valid_scientificNumeral hd

theorem marked_numeral (layout : Layout) (d : Digits) : (layout.numeral d).Marked := by
  rw [numeral]
  split
  · left
    rw [Digits.plainNumeral]
    split_ifs <;> exact Option.some_ne_none _
  · exact .inr (Option.some_ne_none _)

end Layout

end GivenWhenThen.Decimal
