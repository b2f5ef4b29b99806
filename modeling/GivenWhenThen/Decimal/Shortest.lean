/-! The shortest decimal of a binary value: the fewest digits that lie among the reals rounding to
the value, and of those digits the nearest. `Binary` is a value `mantissa * 2 ^ exponent`, and
`Binary.shortest` its decimal. A `Layout` says how a decimal is laid out: positionally for exponents
in a range, and otherwise with the point after the first digit and a signed power of ten. -/

namespace GivenWhenThen.Decimal

/-- The finite value `mantissa * 2 ^ exponent`. `narrowBelow` says that the next value below lies
half as far away as the next value above, as it does below a power of two. -/
structure Binary where
  mantissa : Nat
  exponent : Int
  narrowBelow : Bool
deriving DecidableEq, Repr

/-- The magnitude with the given 64-bit pattern, sign aside. -/
def Binary.ofBits (bits : UInt64) : Binary :=
  let biased := ((bits >>> 52) &&& 0x7FF).toNat
  let fraction := (bits &&& 0xFFFFFFFFFFFFF).toNat
  if biased = 0 then ⟨fraction, -1074, false⟩
  else ⟨0x10000000000000 + fraction, (biased : Int) - 1075, fraction = 0 && 1 < biased⟩

/-- A nonzero decimal: its significant digits, and the power of ten of the first of them. -/
structure Digits where
  digits : List Char
  leading : Int
deriving DecidableEq, Repr

/-- The numerator of `base ^ k` as a fraction; the denominator is the numerator of
`base ^ (-k)`. -/
def power (base : Nat) (k : Int) : Nat := base.pow k.toNat

/-- Compares `a * 10 ^ i` with `b * 2 ^ j`. -/
def compareScaled (a : Nat) (i : Int) (b : Nat) (j : Int) : Ordering :=
  compare (a * power 10 i * power 2 (-j)) (b * power 2 j * power 10 (-i))

/-- `n * 10 ^ place` lies among the reals that round to `x`; the ends of that interval belong to it
when the mantissa is even. -/
def Binary.readsBack (x : Binary) (n : Nat) (place : Int) : Bool :=
  let below := compareScaled n place (4 * x.mantissa - if x.narrowBelow then 1 else 2)
    (x.exponent - 2)
  let above := compareScaled n place (4 * x.mantissa + 2) (x.exponent - 2)
  let closed := x.mantissa % 2 == 0
  (below == .gt || closed && below == .eq) && (above == .lt || closed && above == .eq)

/-- The least `k` with `x < 10 ^ k`, for a nonzero `x`: an estimate from the binary logarithm,
which is at most two too low, and a comparison. -/
def Binary.scale (x : Binary) : Int :=
  let estimate := ((x.mantissa.log2 : Int) + x.exponent) * 30103 / 100000
  if compareScaled 1 estimate x.mantissa x.exponent == .gt then estimate
  else if compareScaled 1 (estimate + 1) x.mantissa x.exponent == .gt then estimate + 1
  else estimate + 2

/-- The integer part of `x / 10 ^ place`. -/
def Binary.floorAt (x : Binary) (place : Int) : Nat :=
  x.mantissa * power 2 x.exponent * power 10 (-place) / (power 2 (-x.exponent) * power 10 place)

/-- The multiple of `10 ^ place` that reads back as `x`: of the two neighbours of `x` the nearer
one, and the even one when both are equally near. -/
def Binary.onGrid? (x : Binary) (place : Int) : Option Nat :=
  let low := x.floorAt place
  match x.readsBack low place, x.readsBack (low + 1) place with
  | true, false => some low
  | false, true => some (low + 1)
  | false, false => none
  | true, true =>
    match compareScaled (2 * low + 1) place (2 * x.mantissa) x.exponent with
    | .gt => some low
    | .lt => some (low + 1)
    | .eq => some (if low % 2 = 0 then low else low + 1)

/-- The digits of `n * 10 ^ place` without zeros at the end. -/
def Digits.ofNat (n : Nat) (place : Int) : Digits :=
  let digits := Nat.toDigits 10 n
  { digits := (digits.reverse.dropWhile (· == '0')).reverse
    leading := place + digits.length - 1 }

/-- The shortest decimal that reads back as the nonzero `x`. Seventeen digits suffice for every
64-bit value; the exact value stands at the end of the search. -/
def Binary.shortest (x : Binary) : Digits :=
  let scale := x.scale
  let found := (List.range 17).findSome? fun count : Nat =>
    let place := scale - (count + 1 : Nat)
    (x.onGrid? place).map (Digits.ofNat · place)
  found.getD <|
    if 0 ≤ x.exponent then .ofNat (x.mantissa * power 2 x.exponent) 0
    else .ofNat (x.mantissa * power 5 (-x.exponent)) x.exponent

/-! ### Layout -/

/-- The powers of ten of the first digit for which a decimal is written positionally. -/
structure Layout where
  plainFrom : Int
  plainBelow : Int

/-- The decimal with its point in place; a whole number ends in `.0`. -/
def Digits.plain (d : Digits) : String :=
  if d.leading < 0 then
    "0." ++ String.ofList (List.replicate (-d.leading - 1).toNat '0' ++ d.digits)
  else
    let whole := d.leading.toNat + 1
    let fraction := d.digits.drop whole
    String.ofList (d.digits.take whole ++ List.replicate (whole - d.digits.length) '0') ++ "." ++
      if fraction.isEmpty then "0" else String.ofList fraction

/-- The decimal as digits times a power of ten, whose sign is always written. -/
def Digits.scientific (d : Digits) : String :=
  let fraction := d.digits.drop 1
  String.ofList (d.digits.take 1) ++
    (if fraction.isEmpty then "" else "." ++ String.ofList fraction) ++ "e" ++
    (if d.leading < 0 then "-" else "+") ++ toString d.leading.natAbs

/-- The decimal as `layout` says. -/
def Layout.write (layout : Layout) (d : Digits) : String :=
  if layout.plainFrom ≤ d.leading ∧ d.leading < layout.plainBelow then d.plain else d.scientific

end GivenWhenThen.Decimal
