import GivenWhenThen.Decimal.Shortest

/-! JSON values, their numbers, and the text of a number. Integers and 64-bit floats stay apart:
`1` and `1.0` are different numbers with different texts. How a float is written is left open, by
`FloatText`; the way that programs take if nothing else is said is `Binary64.text`. -/

namespace GivenWhenThen

/-- A finite 64-bit float, kept as its bits. -/
structure Binary64 where
  bits : UInt64
deriving DecidableEq, Repr

namespace Binary64

def isNegative (x : Binary64) : Bool := x.bits >>> 63 != 0

def isZero (x : Binary64) : Bool := x.bits <<< 1 == 0

/-- The float nearest to a power of ten. All powers past the last finite one are infinite. -/
def powerOfTen (n : Nat) : Float := Float.ofScientific 1 false (min n 309)

/-- The float of `± significand * 10 ^ exponent` for a significand of at most 64 bits, if it is
finite. The significand is rounded to a float first, and then multiplied or divided by the float of
a power of ten, which rounds once more. The powers without a finite inverse take two divisions, and
two divisions by the largest power leave nothing of any significand. -/
def ofScaled? (negative : Bool) (significand : Nat) (exponent : Int) : Option Binary64 :=
  let rounded := (UInt64.ofNat significand).toFloat
  let magnitude :=
    if significand = 0 then 0.0
    else if 0 ≤ exponent then rounded * powerOfTen exponent.toNat
    else if -308 ≤ exponent then rounded / powerOfTen (-exponent).toNat
    else rounded / powerOfTen 308 / powerOfTen (min 308 (-308 - exponent).toNat)
  let sign : UInt64 := if negative then 0x8000000000000000 else 0
  let bits := magnitude.toBits
  if bits = 0x7FF0000000000000 then none else some ⟨bits ||| sign⟩

/-- Floats are written positionally from `10 ^ -5` up to below `10 ^ 16`. -/
def layout : Decimal.Layout := ⟨-5, 16⟩

/-- The fewest digits that read back as the float. -/
def text (x : Binary64) : String :=
  (if x.isNegative then "-" else "") ++
    if x.isZero then "0.0" else layout.write (Decimal.Binary.ofBits x.bits).shortest

/-- Numeric equality, in which the two zeros are equal. -/
def same (x y : Binary64) : Bool := x == y || (x.isZero && y.isZero)

end Binary64

/-- A way to write floats. -/
class FloatText where
  text : Binary64 → String

instance : FloatText := ⟨Binary64.text⟩

/-- A JSON number. -/
inductive Number where
  | int (value : Int)
  | float (value : Binary64)
deriving DecidableEq, Repr

namespace Number

def text [FloatText] : Number → String
  | int n => toString n
  | float x => FloatText.text x

/-- Integers and floats are never equal, and the two zeros of the floats are. -/
def same : Number → Number → Bool
  | int m, int n => m == n
  | float x, float y => x.same y
  | _, _ => false

end Number

/-- A JSON value. An object lists its fields in the order they were written. -/
inductive Json where
  | null
  | bool (value : Bool)
  | number (value : Number)
  | string (value : String)
  | array (items : List Json)
  | object (fields : List (String × Json))
deriving Repr, Inhabited

namespace Json

instance : Coe String Json := ⟨.string⟩
instance : Coe Bool Json := ⟨.bool⟩
instance : Coe Int Json := ⟨fun n => .number (.int n)⟩
instance : Coe Nat Json := ⟨fun n => .number (.int n)⟩

/-- The last value written for a key. -/
def get? (key : String) : Json → Option Json
  | object fields => (fields.reverse.find? (·.1 == key)).map (·.2)
  | _ => none

mutual

/-- Equality of values whose objects list their fields in the same order. -/
def same : Json → Json → Bool
  | null, null => true
  | bool a, bool b => a == b
  | number m, number n => m.same n
  | string s, string t => s == t
  | array xs, array ys => sameItems xs ys
  | object fs, object gs => sameFields fs gs
  | _, _ => false

def sameItems : List Json → List Json → Bool
  | [], [] => true
  | x :: xs, y :: ys => same x y && sameItems xs ys
  | _, _ => false

def sameFields : List (String × Json) → List (String × Json) → Bool
  | [], [] => true
  | (k, x) :: fs, (l, y) :: gs => k == l && same x y && sameFields fs gs
  | _, _ => false

end

end Json

end GivenWhenThen
