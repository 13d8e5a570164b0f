import Footfall.Json.Value
import Footfall.Text.Numeral

/-!
# Reading JSON numbers

A number without fraction and exponent that fits 64 bits, signed or unsigned, is exact. Any other
number is floating-point, and so is a negative zero. Its digits are collected in a 64-bit
significand as long as they fit; the digits after that are dropped, those before the point still
counting as places. The significand is then scaled by one multiplication or division by a power of
ten. A number beyond the floating-point range is an error.

* `Numeral` is the written form: sign, digits before and after the point, exponent.
* `Numeral.scan` reads one; `Numeral.value` is the value it stands for.
-/

namespace Footfall.Json

/-- A number as it is written. -/
structure Numeral where
  negative : Bool
  whole : List Nat
  /-- The digits after the point, absent without a point. -/
  fraction : Option (List Nat)
  /-- The sign and digits of the exponent, absent without one. -/
  exponent : Option (Bool × List Nat)

namespace Numeral

/-- The digits at the start of a text, and the rest. -/
def scanDigits : List Char → List Nat × List Char
  | [] => ([], [])
  | c :: r =>
    match Text.digitValue c with
    | some d =>
      let (ds, rest) := scanDigits r
      (d :: ds, rest)
    | none => ([], c :: r)

/-- The digits before the point: a zero stands alone. -/
def scanWhole (cs : List Char) : Option (List Nat × List Char) :=
  match scanDigits cs with
  | ([], _) => none
  | (0 :: _ :: _, _) => none
  | (ds, rest) => some (ds, rest)

/-- The point and the digits after it, at least one, if there is a point. -/
def scanFraction : List Char → Option (Option (List Nat) × List Char)
  | '.' :: r =>
    match scanDigits r with
    | ([], _) => none
    | (ds, rest) => some (some ds, rest)
  | cs => some (none, cs)

/-- The sign of an exponent, if one is written: is it negative? -/
def scanExponentSign : List Char → Bool × List Char
  | '+' :: r => (false, r)
  | '-' :: r => (true, r)
  | cs => (false, cs)

/-- The digits of an exponent, at least one, after its letter. -/
def scanExponentDigits (cs : List Char) : Option (Option (Bool × List Nat) × List Char) :=
  let (negative, cs) := scanExponentSign cs
  match scanDigits cs with
  | ([], _) => none
  | (ds, rest) => some (some (negative, ds), rest)

/-- The exponent, if there is one. -/
def scanExponent : List Char → Option (Option (Bool × List Nat) × List Char)
  | 'e' :: r => scanExponentDigits r
  | 'E' :: r => scanExponentDigits r
  | cs => some (none, cs)

/-- The sign of a number: is it negative? -/
def scanSign : List Char → Bool × List Char
  | '-' :: r => (true, r)
  | cs => (false, cs)

/-- Read a number, and give the rest of the text. -/
def scan (cs : List Char) : Option (Numeral × List Char) := do
  let (negative, cs) := scanSign cs
  let (whole, cs) ← scanWhole cs
  let (fraction, cs) ← scanFraction cs
  let (exponent, cs) ← scanExponent cs
  return (⟨negative, whole, fraction, exponent⟩, cs)

/-- The largest significand. -/
def maxSignificand : Nat := Nat.pow 2 64 - 1

/-- Collect digits before the point: the significand, and the number of digits that no longer
fit. -/
def collectWhole (significand : Nat) : List Nat → Nat × Nat
  | [] => (significand, 0)
  | d :: r =>
    if significand * 10 + d ≤ maxSignificand then collectWhole (significand * 10 + d) r
    else (significand, r.length + 1)

/-- Collect digits after the point: the significand, and the number of digits that fitted. -/
def collectFraction (significand taken : Nat) : List Nat → Nat × Nat
  | [] => (significand, taken)
  | d :: r =>
    if significand * 10 + d ≤ maxSignificand then
      collectFraction (significand * 10 + d) (taken + 1) r
    else (significand, taken)

/-- The number that digits write. -/
def digitsValue (ds : List Nat) : Nat := ds.foldl (fun n d => n * 10 + d) 0

/-- A power of ten as floating point. -/
def powerOfTen (k : Nat) : Float := Float.ofScientific 1 false k

/-- A significand scaled by a power of ten, absent beyond the floating-point range. Powers beyond
`10^308` are no floating-point numbers, so a far smaller number is divided in two steps, after
which nothing is left of it. -/
def scale (significand : Nat) (exponent : Int) : Option Float :=
  let s := Float.ofNat significand
  if 308 < exponent then
    if significand = 0 then some 0.0 else none
  else if 0 ≤ exponent then
    let x := s * powerOfTen exponent.toNat
    if x.isInf then none else some x
  else if -308 ≤ exponent then
    some (s / powerOfTen (-exponent).toNat)
  else if -616 ≤ exponent then
    some (s / powerOfTen 308 / powerOfTen (-exponent - 308).toNat)
  else some 0.0

/-- The largest exponent that is read as a number; a longer one is beyond every scale. -/
def maxExponent : Nat := Nat.pow 2 31 - 1

/-- The floating-point value of a number, absent beyond the range. -/
def floatValue (n : Numeral) : Option Float := do
  let (significand, dropped) := collectWhole 0 n.whole
  let (significand, taken) := collectFraction significand 0 (n.fraction.getD [])
  let shift : Int := dropped - taken
  let magnitude ←
    match n.exponent with
    | none => scale significand shift
    | some (negative, ds) =>
      let e := digitsValue ds
      if maxExponent < e then
        if significand = 0 ∨ negative then some 0.0 else none
      else scale significand (if negative then shift - e else shift + e)
  return if n.negative then -magnitude else magnitude

/-- The value of a number, absent when it is out of range. -/
def value (n : Numeral) : Option Value :=
  match n.fraction, n.exponent with
  | none, none =>
    let v := digitsValue n.whole
    if n.negative then
      if 0 < v ∧ v ≤ Nat.pow 2 63 then some (.int (-v)) else n.floatValue.map .float
    else
      if v ≤ maxSignificand then some (.int v) else n.floatValue.map .float
  | _, _ => n.floatValue.map .float

end Numeral

end Footfall.Json
