/-! Ranges of code points in UTF-8. A range of code points is written as rows of byte ranges: a
character lies in it when its bytes lie in the ranges of one of the rows, one by one. -/

namespace GivenWhenThen.Unicode.Utf8

/-- A closed range of bytes. -/
abbrev ByteRange := Nat × Nat

/-- One range for each byte of a character. -/
abbrev Row := List ByteRange

/-- The rows of the numbers from `first` to `last` that have `count` digits in base 64 after the
leading one, which is written with the bytes from `lead` on. Numbers that share their leading digit
are told apart by the rest; the first and the last leading digit stand alone unless all numbers
that begin with them are meant. -/
def rowsFrom (lead : Nat) : (count : Nat) → (first last : Nat) → List Row
  | 0, first, last => [[(lead + first, lead + last)]]
  | count + 1, first, last =>
    let unit := 64 ^ (count + 1)
    let under (digit first last : Nat) : List Row :=
      (rowsFrom 0x80 count first last).map ((lead + digit, lead + digit) :: ·)
    let a := first / unit
    let b := last / unit
    if a = b then under a (first % unit) (last % unit)
    else
      let (low, start) :=
        if first % unit = 0 then ([], a) else (under a (first % unit) (unit - 1), a + 1)
      let (high, stop) :=
        if last % unit = unit - 1 then ([], b + 1) else (under b 0 (last % unit), b)
      let middle : List Row :=
        if start < stop then
          [(lead + start, lead + (stop - 1)) :: List.replicate (count + 1) (0x80, 0xBF)]
        else []
      low ++ middle ++ high

/-- The code points with one to four bytes: the first and the last of them, the number of bytes
after the leading one, and the least leading byte. -/
def lengths : List (Nat × Nat × Nat × Nat) :=
  [(0, 0x7F, 0, 0), (0x80, 0x7FF, 1, 0xC0), (0x800, 0xFFFF, 2, 0xE0), (0x10000, 0x10FFFF, 3, 0xF0)]

/-- The rows of the code points from `first` to `last`, in ascending order. -/
def rows (first last : Nat) : List Row :=
  lengths.flatMap fun (least, greatest, count, lead) =>
    let first := max first least
    let last := min last greatest
    if first ≤ last then rowsFrom lead count first last else []

end GivenWhenThen.Unicode.Utf8
