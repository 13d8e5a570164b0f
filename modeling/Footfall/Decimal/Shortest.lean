/-!
# The shortest decimal of a floating-point number

A finite floating-point number is written with the fewest digits from which it is read back. A
positive number is `m · 2^q`; the reals that round to it form an interval around it, whose ends
belong to it when `m` is even. On the grid of the multiples of `10^k`, only the two neighbours of
the number can be the best candidates, so the coarsest grid with a neighbour inside the interval
has the fewest digits, and of two such neighbours the nearer one is taken.

* `Binary` is a positive number `m · 2^q`, and `Binary.ofFloat` reads it off the bits.
* `Binary.shortest` is the decimal `d · 10^k` with the fewest digits.
* `Layout` says how digits and exponent are laid out; `floatText` is the text under it.
-/

namespace Footfall.Decimal

/-- A positive number `mantissa · 2^exponent`. The flag marks the numbers whose lower neighbour
is at half the usual distance. -/
structure Binary where
  mantissa : Nat
  exponent : Int
  narrowBelow : Bool

/-- The magnitude of a finite floating-point number, absent for zero. -/
def Binary.ofBits (bits : Nat) : Option Binary :=
  let fraction : Nat := bits % Nat.pow 2 52
  let biased : Nat := bits / Nat.pow 2 52 % Nat.pow 2 11
  if biased = 0 then
    if fraction = 0 then none else some ⟨fraction, -1074, false⟩
  else
    some ⟨Nat.pow 2 52 + fraction, (biased : Int) - 1075, fraction == 0 && 1 < biased⟩

/-- The numerator and denominator of `n · 2^e`. -/
def dyadic (n : Nat) (e : Int) : Nat × Nat := (n * Nat.pow 2 e.toNat, Nat.pow 2 (-e).toNat)

/-- A decimal `digits · 10^exponent`. -/
structure Scaled where
  digits : Nat
  exponent : Int
  deriving Repr, DecidableEq

/-- The best candidate on the grid of the multiples of `10^k`, if one lies in the interval of the
reals that round to the number. -/
def Binary.onGrid (x : Binary) (k : Int) : Option Scaled :=
  -- in units of a quarter of the spacing, over one common denominator with the grid
  let (value, den) := dyadic (4 * x.mantissa) (x.exponent - 2)
  let (below, _) := dyadic (if x.narrowBelow then 1 else 2) (x.exponent - 2)
  let (above, _) := dyadic 2 (x.exponent - 2)
  let up := Nat.pow 10 (-k).toNat
  let unit := den * Nat.pow 10 k.toNat
  let value := value * up
  let lowest := value - below * up
  let highest := value + above * up
  let closed := x.mantissa % 2 == 0
  let inside (v : Nat) : Bool :=
    if closed then lowest ≤ v && v ≤ highest else lowest < v && v < highest
  let d := value / unit
  let lower := d * unit
  let upper := (d + 1) * unit
  match d != 0 && inside lower, inside upper with
  | true, true =>
    let down := value - lower
    let rise := upper - value
    if down < rise || (down == rise && d % 2 == 0) then some ⟨d, k⟩ else some ⟨d + 1, k⟩
  | true, false => some ⟨d, k⟩
  | false, true => some ⟨d + 1, k⟩
  | false, false => none

/-- The first grid from `10^k` downwards with a candidate. -/
def Binary.search (x : Binary) (k : Int) : Nat → Option Scaled
  | 0 => none
  | fuel + 1 =>
    match x.onGrid k with
    | some d => some d
    | none => x.search (k - 1) fuel

/-- An exponent `k` with the number below `10^k`, and not far below it. -/
def Binary.magnitude (x : Binary) : Int :=
  let bits : Int := Nat.log2 x.mantissa + x.exponent + 1
  Int.fdiv (bits * 30103) 100000 + 2

/-- The decimal with the fewest digits that rounds to the number. Twenty grids are enough, since
seventeen digits tell any two numbers apart. -/
def Binary.shortest (x : Binary) : Scaled := (x.search x.magnitude 24).getD ⟨0, 0⟩

/-- The decimal without trailing zeros in its digits. -/
def Scaled.stripped (d : Scaled) : Nat → Scaled
  | 0 => d
  | fuel + 1 =>
    if d.digits != 0 && d.digits % 10 == 0 then
      Scaled.stripped ⟨d.digits / 10, d.exponent + 1⟩ fuel
    else d

/-- How a decimal is laid out. With the point after `p` digits counted from the first digit, the
positional form is used for `lowest < p ≤ highest`. -/
structure Layout where
  /-- The smallest position of the point, excluded. -/
  lowest : Int
  /-- The largest position of the point. -/
  highest : Int

/-- Numbers from `0.00001` up to sixteen digits before the point are written positionally. -/
def layout : Layout := ⟨-5, 16⟩

/-- An exponent with its sign and without leading zeros. -/
def exponentText (e : Int) : List Char :=
  (if e < 0 then '-' else '+') :: Nat.toDigits 10 e.natAbs

/-- The text of a decimal under a layout. A whole number keeps one zero after the point. -/
def Scaled.text (l : Layout) (d : Scaled) : List Char :=
  let ds := Nat.toDigits 10 d.digits
  let point := (ds.length : Int) + d.exponent
  if 0 ≤ d.exponent ∧ point ≤ l.highest then
    ds ++ List.replicate d.exponent.toNat '0' ++ ['.', '0']
  else if 0 < point ∧ point ≤ l.highest then
    ds.take point.toNat ++ '.' :: ds.drop point.toNat
  else if l.lowest < point ∧ point ≤ 0 then
    '0' :: '.' :: List.replicate (-point).toNat '0' ++ ds
  else
    let tail := 'e' :: exponentText (point - 1)
    match ds with
    | [] => tail
    | [c] => c :: tail
    | c :: r => c :: '.' :: r ++ tail

/-- The text of a finite floating-point number: its sign and the shortest decimal. -/
def floatText (x : Float) : List Char :=
  let bits := x.toBits.toNat
  let sign := if bits / Nat.pow 2 63 = 1 then ['-'] else []
  let body :=
    match Binary.ofBits (bits % Nat.pow 2 63) with
    | none => ['0', '.', '0']
    | some b => (b.shortest.stripped 20).text layout
  sign ++ body

end Footfall.Decimal
