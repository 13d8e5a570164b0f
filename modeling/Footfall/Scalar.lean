/-!
# The numbers that rates are computed in

Tokens, rates, percentages and averages are computed over one small interface of arithmetic. The
service runs on double-precision floating point; the laws of its algorithms are about exact
rationals, and both are instances of `Scalar`, so that one definition serves both.

* `Scalar` has the four operations, the two comparisons and the image of the integers.
* `seconds` turns a duration in nanoseconds into seconds: the whole seconds plus the fraction.
* `percent` is a part of a whole in percent, zero of nothing.
-/

namespace Footfall

/-- A number type with the arithmetic of rates. -/
class Scalar (α : Type) extends Add α, Sub α, Mul α, Div α, LE α, LT α where
  /-- The number that an integer is, or is rounded to. -/
  ofInt : Int → α
  /-- Comparison is decidable. -/
  decLE : ∀ a b : α, Decidable (a ≤ b)
  /-- Strict comparison is decidable. -/
  decLT : ∀ a b : α, Decidable (a < b)

namespace Scalar

variable {α : Type} [Scalar α]

instance (a b : α) : Decidable (a ≤ b) := Scalar.decLE a b

instance (a b : α) : Decidable (a < b) := Scalar.decLT a b

/-- The number that a natural number is, or is rounded to. -/
def ofNat (n : Nat) : α := ofInt n

/-- The smaller of two numbers. -/
def min (a b : α) : α := if a ≤ b then a else b

instance : Scalar Float where
  ofInt := Float.ofInt
  decLE := inferInstance
  decLT := inferInstance

instance : Scalar Rat where
  ofInt n := n
  decLE := inferInstance
  decLT := inferInstance

/-- A duration in nanoseconds as seconds. -/
def seconds (nanos : Nat) : α :=
  ofNat (nanos / 1000000000) + ofNat (nanos % 1000000000) / ofNat 1000000000

/-- A part of a whole in percent; of nothing it is zero. -/
def percent (part whole : Nat) : α :=
  if whole = 0 then ofNat 0 else ofNat 100 * ofNat part / ofNat whole

end Scalar

end Footfall
