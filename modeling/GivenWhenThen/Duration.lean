/-! Lengths of time, in whole nanoseconds, and their text. -/

namespace GivenWhenThen

structure Duration where
  nanoseconds : Nat
deriving DecidableEq, Repr

namespace Duration

def ofMicroseconds (n : Nat) : Duration := ⟨1000 * n⟩

def ofMilliseconds (n : Nat) : Duration := ⟨1000000 * n⟩

def ofSeconds (n : Nat) : Duration := ⟨1000000000 * n⟩

instance : LE Duration := ⟨fun d d' => d.nanoseconds ≤ d'.nanoseconds⟩

instance : LT Duration := ⟨fun d d' => d.nanoseconds < d'.nanoseconds⟩

instance : DecidableLE Duration := fun d d' => Nat.decLe d.nanoseconds d'.nanoseconds

instance : DecidableLT Duration := fun d d' => Nat.decLt d.nanoseconds d'.nanoseconds

instance : Add Duration := ⟨fun d d' => ⟨d.nanoseconds + d'.nanoseconds⟩⟩

instance : Sub Duration := ⟨fun d d' => ⟨d.nanoseconds - d'.nanoseconds⟩⟩

/-- `part` of `10 ^ places`, as the digits after a point; the zeros at the end are left out, and the
point with them when no digit remains. -/
def fractionText (part places : Nat) : String :=
  let digits := Nat.toDigits 10 part
  let padded := List.replicate (places - digits.length) '0' ++ digits
  match (padded.reverse.dropWhile (· == '0')).reverse with
  | [] => ""
  | kept => "." ++ String.ofList kept

/-- The length in the largest unit of which it has at least one whole. -/
def text (d : Duration) : String :=
  let n := d.nanoseconds
  if 1000000000 ≤ n then toString (n / 1000000000) ++ fractionText (n % 1000000000) 9 ++ "s"
  else if 1000000 ≤ n then toString (n / 1000000) ++ fractionText (n % 1000000) 6 ++ "ms"
  else if 1000 ≤ n then toString (n / 1000) ++ fractionText (n % 1000) 3 ++ "µs"
  else toString n ++ "ns"

end Duration

end GivenWhenThen
