import Footfall.Decimal.Shortest

/-!
# Decimals with a fixed number of places

Figures in a printed report have a fixed number of places. The exact value of the floating-point
number is rounded, and an exact tie goes to the even neighbour.

* `roundDiv` rounds a quotient to the nearest integer, ties to even.
* `fixedText` writes a finite number with a given number of places.
-/

namespace Footfall.Decimal

/-- The integer nearest to `num / den`; a tie goes to the even neighbour. -/
def roundDiv (num den : Nat) : Nat :=
  let q := num / den
  let r := num % den
  if 2 * r < den then q
  else if den < 2 * r then q + 1
  else if q % 2 = 0 then q else q + 1

/-- The digits of a number, at least `width` of them. -/
def paddedDigits (width n : Nat) : List Char :=
  let ds := Nat.toDigits 10 n
  List.replicate (width - ds.length) '0' ++ ds

/-- A finite floating-point number with `places` decimal places. -/
def fixedText (places : Nat) (x : Float) : String :=
  let bits := x.toBits.toNat
  let sign := if bits / Nat.pow 2 63 = 1 then ['-'] else []
  let scaled :=
    match Binary.ofBits (bits % Nat.pow 2 63) with
    | none => 0
    | some b =>
      let (num, den) := dyadic b.mantissa b.exponent
      roundDiv (num * Nat.pow 10 places) den
  let ds := paddedDigits (places + 1) scaled
  let whole := ds.take (ds.length - places)
  let fraction := ds.drop (ds.length - places)
  String.ofList (sign ++ whole ++ (if places = 0 then [] else '.' :: fraction))

end Footfall.Decimal
