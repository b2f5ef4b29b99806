import GivenWhenThen.Proofs.Decimal.Numeral
import Mathlib.Algebra.Order.Field.Power
import Mathlib.Tactic.Ring

/-! Which reals round to a binary value. The shortest decimal of a value is among them, by
`Binary.rounds_shortest`, and no real rounds to two values, by `Binary.rounds_unique`, so that the
shortest decimals of different values are different. -/

namespace GivenWhenThen.Decimal

/-! ### Exact comparison -/

theorem power_pos {base : ℕ} (hbase : 0 < base) (k : ℤ) : 0 < power base k :=
  Nat.pow_pos hbase

theorem zpow_eq_power_div (base : ℕ) (k : ℤ) :
    (base : ℚ) ^ k = power base k / power base (-k) := by
  obtain ⟨n, rfl | rfl⟩ := k.eq_nat_or_neg
  · simp [power]
  · simp [power]

theorem compareScaled_eq (a : ℕ) (i : ℤ) (b : ℕ) (j : ℤ) :
    compareScaled a i b j = cmp ((a : ℚ) * 10 ^ i) (b * 2 ^ j) := by
  have hten : (10 : ℚ) ^ i = power 10 i / power 10 (-i) := zpow_eq_power_div _ i
  have htwo : (2 : ℚ) ^ j = power 2 j / power 2 (-j) := zpow_eq_power_div _ j
  have hten' : (0 : ℚ) < power 10 (-i) := Nat.cast_pos.2 (power_pos (by decide) _)
  have htwo' : (0 : ℚ) < power 2 (-j) := Nat.cast_pos.2 (power_pos (by decide) _)
  -- Both sides times the two denominators are the natural numbers that are compared.
  rw [compareScaled, ← cmp_eq_compare, ← (Nat.strictMono_cast (α := ℚ)).cmp_map_eq,
    ← cmp_mul_pos_right (mul_pos hten' htwo') (a * 10 ^ i), hten, htwo]
  congr 1
  · push_cast
    field_simp
  · push_cast
    field_simp

theorem compareScaled_eq_lt_iff {a b : ℕ} {i j : ℤ} :
    compareScaled a i b j = .lt ↔ (a : ℚ) * 10 ^ i < b * 2 ^ j := by
  rw [compareScaled_eq, cmp_eq_lt_iff]

theorem compareScaled_eq_eq_iff {a b : ℕ} {i j : ℤ} :
    compareScaled a i b j = .eq ↔ (a : ℚ) * 10 ^ i = b * 2 ^ j := by
  rw [compareScaled_eq, cmp_eq_eq_iff]

theorem compareScaled_eq_gt_iff {a b : ℕ} {i j : ℤ} :
    compareScaled a i b j = .gt ↔ (b : ℚ) * 2 ^ j < a * 10 ^ i := by
  rw [compareScaled_eq, cmp_eq_gt_iff]

namespace Binary

/-! ### The reals that round to a value -/

/-- The value as a number. -/
def value (x : Binary) : ℚ := x.mantissa * 2 ^ x.exponent

/-- The middle between the value and the next one below. -/
def lower (x : Binary) : ℚ :=
  (4 * x.mantissa - if x.narrowBelow then 1 else 2 : ℕ) * 2 ^ (x.exponent - 2)

/-- The middle between the value and the next one above. -/
def upper (x : Binary) : ℚ := (4 * x.mantissa + 2 : ℕ) * 2 ^ (x.exponent - 2)

/-- `q` rounds to the value: it lies between the middles, and on one of them only if the mantissa is
even. -/
structure Rounds (x : Binary) (q : ℚ) : Prop where
  lower_le : x.lower ≤ q
  le_upper : q ≤ x.upper
  ne_of_odd : x.mantissa % 2 ≠ 0 → q ≠ x.lower ∧ q ≠ x.upper

variable {x : Binary} {n : ℕ} {place : ℤ}

theorem readsBack_iff : x.readsBack n place = true ↔ x.Rounds (n * 10 ^ place) := by
  have hsides : x.readsBack n place = true ↔
      (x.lower < n * 10 ^ place ∨ x.mantissa % 2 = 0 ∧ n * 10 ^ place = x.lower) ∧
        (n * 10 ^ place < x.upper ∨ x.mantissa % 2 = 0 ∧ n * 10 ^ place = x.upper) := by
    simp only [readsBack, Bool.and_eq_true, Bool.or_eq_true, beq_iff_eq, compareScaled_eq_lt_iff,
      compareScaled_eq_eq_iff, compareScaled_eq_gt_iff]
    rfl
  rw [hsides]
  constructor
  · rintro ⟨hlower, hupper⟩
    refine ⟨?_, ?_, fun hodd => ⟨?_, ?_⟩⟩
    · exact hlower.elim le_of_lt fun h => h.2.ge
    · exact hupper.elim le_of_lt fun h => h.2.le
    · exact hlower.elim ne_of_gt fun h => absurd h.1 hodd
    · exact hupper.elim ne_of_lt fun h => absurd h.1 hodd
  · intro h
    by_cases heven : x.mantissa % 2 = 0
    · simp only [heven, true_and]
      exact ⟨h.lower_le.lt_or_eq.imp_right Eq.symm, h.le_upper.lt_or_eq⟩
    · obtain ⟨hne, hne'⟩ := h.ne_of_odd heven
      exact ⟨.inl (lt_of_le_of_ne h.lower_le hne.symm), .inl (lt_of_le_of_ne h.le_upper hne')⟩

theorem lower_pos (hpos : 0 < x.mantissa) : 0 < x.lower := by
  refine mul_pos (Nat.cast_pos.2 ?_) (zpow_pos two_pos _)
  split <;> omega

theorem lower_lt_upper (x : Binary) : x.lower < x.upper := by
  refine mul_lt_mul_of_pos_right (Nat.cast_lt.2 ?_) (zpow_pos two_pos _)
  split <;> omega

theorem rounds_value (hpos : 0 < x.mantissa) : x.Rounds x.value := by
  have hvalue : x.value = (4 * x.mantissa : ℕ) * 2 ^ (x.exponent - 2) := by
    rw [value, zpow_sub₀ two_ne_zero]
    push_cast
    ring
  have hlower : x.lower < x.value := by
    rw [hvalue]
    refine mul_lt_mul_of_pos_right (Nat.cast_lt.2 ?_) (zpow_pos two_pos _)
    split <;> omega
  have hupper : x.value < x.upper := by
    rw [hvalue]
    exact mul_lt_mul_of_pos_right (Nat.cast_lt.2 (by omega)) (zpow_pos two_pos _)
  exact ⟨hlower.le, hupper.le, fun _ => ⟨hlower.ne', hupper.ne⟩⟩

/-! ### The shortest decimal -/

theorem rounds_of_onGrid? (h : x.onGrid? place = some n) : x.Rounds (n * 10 ^ place) := by
  rw [← readsBack_iff]
  unfold onGrid? at h
  dsimp only at h
  split at h
  · next hlow _ => rwa [← Option.some.inj h]
  · next hhigh => rwa [← Option.some.inj h]
  · cases h
  · next hlow hhigh =>
    split at h
    · rwa [← Option.some.inj h]
    · rwa [← Option.some.inj h]
    · rw [← Option.some.inj h]
      split
      · exact hlow
      · exact hhigh

/-- The shortest decimal is one that was found on a grid, or it is the value itself. -/
theorem exists_shortest (x : Binary) :
    ∃ n place, x.shortest = .ofNat n place ∧
      (x.onGrid? place = some n ∨ n * (10 : ℚ) ^ place = x.value) := by
  unfold shortest
  dsimp only
  cases hfound : (List.range 17).findSome? fun count : ℕ =>
      (x.onGrid? (x.scale - (count + 1 : ℕ))).map (Digits.ofNat · (x.scale - (count + 1 : ℕ))) with
  | some d =>
    obtain ⟨count, -, hcount⟩ := List.exists_of_findSome?_eq_some hfound
    obtain ⟨n, hn, rfl⟩ := Option.map_eq_some_iff.1 hcount
    exact ⟨n, _, rfl, .inl hn⟩
  | none =>
    rw [Option.getD_none]
    split
    · next hexponent =>
      obtain ⟨k, hk⟩ := Int.eq_ofNat_of_zero_le hexponent
      refine ⟨_, _, rfl, .inr ?_⟩
      rw [value, hk, power]
      simp
    · next hexponent =>
      obtain ⟨k, hk⟩ : ∃ k : ℕ, x.exponent = -k := ⟨(-x.exponent).toNat, by omega⟩
      have hten : (10 : ℚ) ^ (-k : ℤ) = 5 ^ (-k : ℤ) * 2 ^ (-k : ℤ) := by
        rw [← mul_zpow]
        norm_num
      refine ⟨_, _, rfl, .inr ?_⟩
      rw [value, hk, hten, power]
      simp [mul_assoc]

/-- The shortest decimal rounds to the value. -/
theorem rounds_shortest (hpos : 0 < x.mantissa) : x.Rounds x.shortest.value := by
  obtain ⟨n, place, hshortest, hn⟩ := x.exists_shortest
  rw [hshortest, Digits.value_ofNat]
  rcases hn with hgrid | hexact
  · exact rounds_of_onGrid? hgrid
  · rw [hexact]
    exact rounds_value hpos

theorem valid_shortest (x : Binary) : x.shortest.Valid := by
  obtain ⟨n, place, hshortest, -⟩ := x.exists_shortest
  rw [hshortest]
  exact Digits.valid_ofNat

/-! ### Neighbouring values -/

/-- The value whose bits behind the sign are `n`. The values ascend with `n`. -/
def ofMagnitude (n : ℕ) : Binary :=
  if n / 2 ^ 52 = 0 then ⟨n % 2 ^ 52, -1074, false⟩
  else ⟨0x10000000000000 + n % 2 ^ 52, (n / 2 ^ 52 : ℕ) - 1075, n % 2 ^ 52 = 0 && 1 < n / 2 ^ 52⟩

theorem ofBits_eq (bits : UInt64) : ofBits bits = ofMagnitude (bits.toNat % 2 ^ 63) := by
  have hfraction : (bits &&& 0xFFFFFFFFFFFFF).toNat = bits.toNat % 2 ^ 63 % 2 ^ 52 := by
    rw [UInt64.toNat_and]
    change bits.toNat &&& (2 ^ 52 - 1) = _
    rw [Nat.and_two_pow_sub_one_eq_mod]
    omega
  have hbiased : ((bits >>> 52) &&& 0x7FF).toNat = bits.toNat % 2 ^ 63 / 2 ^ 52 := by
    rw [UInt64.toNat_and, UInt64.toNat_shiftRight]
    change bits.toNat >>> 52 &&& (2 ^ 11 - 1) = _
    rw [Nat.and_two_pow_sub_one_eq_mod, Nat.shiftRight_eq_div_pow]
    omega
  rw [ofBits, ofMagnitude, hfraction, hbiased]

/-- Neighbours have mantissas of different parity. -/
theorem mantissa_mod_two (n : ℕ) : (ofMagnitude n).mantissa % 2 = n % 2 := by
  rw [ofMagnitude]
  split
  · dsimp only
    omega
  · dsimp only
    omega

theorem mantissa_pos (hpos : 0 < n) : 0 < (ofMagnitude n).mantissa := by
  rw [ofMagnitude]
  split
  · dsimp only
    omega
  · dsimp only
    omega

/-- The reals that round to a value end where those that round to the next one begin. -/
theorem upper_eq_lower_succ (n : ℕ) : (ofMagnitude n).upper = (ofMagnitude (n + 1)).lower := by
  by_cases hlast : n % 2 ^ 52 + 1 = 2 ^ 52
  · -- The next value is the first one with the next exponent.
    have hdiv : (n + 1) / 2 ^ 52 = n / 2 ^ 52 + 1 := by omega
    have hmod : (n + 1) % 2 ^ 52 = 0 := by omega
    have hfraction : n % 2 ^ 52 = 2 ^ 52 - 1 := by omega
    rw [upper, lower, ofMagnitude, ofMagnitude, hdiv, hmod, hfraction, if_neg (Nat.succ_ne_zero _)]
    split
    · next hzero =>
      rw [hzero]
      norm_num
    · next hpos =>
      have hnarrow : (decide (0 = 0) && decide (1 < n / 2 ^ 52 + 1)) = true := by
        simp only [decide_true, Bool.true_and, decide_eq_true_eq]
        omega
      have hexponent : ((n / 2 ^ 52 + 1 : ℕ) : ℤ) - 1075 - 2 =
          ((n / 2 ^ 52 : ℕ) : ℤ) - 1075 - 2 + 1 := by
        push_cast
        ring
      dsimp only
      rw [hnarrow, hexponent, zpow_add_one₀ two_ne_zero]
      norm_num
      ring
  · have hdiv : (n + 1) / 2 ^ 52 = n / 2 ^ 52 := by omega
    have hmod : (n + 1) % 2 ^ 52 = n % 2 ^ 52 + 1 := by omega
    rw [upper, lower, ofMagnitude, ofMagnitude, hdiv, hmod]
    split
    · rfl
    · rfl

theorem strictMono_lower : StrictMono fun n => (ofMagnitude n).lower :=
  strictMono_nat_of_lt_succ fun n => (lower_lt_upper _).trans_eq (upper_eq_lower_succ n)

theorem not_rounds_of_lt {n' : ℕ} {q : ℚ} (hlt : n < n') (h : (ofMagnitude n).Rounds q) :
    ¬(ofMagnitude n').Rounds q := by
  intro h'
  have hle : (ofMagnitude (n + 1)).lower ≤ (ofMagnitude n').lower := strictMono_lower.monotone hlt
  have hupper : q ≤ (ofMagnitude (n + 1)).lower := h.le_upper.trans_eq (upper_eq_lower_succ n)
  have hnext : n' = n + 1 :=
    strictMono_lower.injective (le_antisymm (h'.lower_le.trans hupper) hle)
  -- The end between two neighbours belongs to the one with the even mantissa.
  have hend : q = (ofMagnitude n').lower := le_antisymm (hupper.trans hle) h'.lower_le
  have hend' : q = (ofMagnitude n).upper := by rw [hend, hnext, upper_eq_lower_succ]
  have heven : n % 2 = 0 := by
    rw [← mantissa_mod_two]
    exact not_not.1 fun hodd => (h.ne_of_odd hodd).2 hend'
  have heven' : n' % 2 = 0 := by
    rw [← mantissa_mod_two]
    exact not_not.1 fun hodd => (h'.ne_of_odd hodd).1 hend
  omega

/-- A real rounds to one value. -/
theorem rounds_unique {n' : ℕ} {q : ℚ} (h : (ofMagnitude n).Rounds q)
    (h' : (ofMagnitude n').Rounds q) : n = n' := by
  rcases lt_trichotomy n n' with hlt | heq | hlt
  · exact absurd h' (not_rounds_of_lt hlt h)
  · exact heq
  · exact absurd h (not_rounds_of_lt hlt h')

end Binary

end GivenWhenThen.Decimal
