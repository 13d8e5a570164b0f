import Footfall.Scalar
import Footfall.Table
import Footfall.Time.Timestamp

/-!
# Token buckets

A bucket holds tokens up to a capacity and refills continuously, so that an empty bucket is full
again after a minute. Refilling is computed when the bucket is looked at. Buckets of one family
share their capacity; an identifier that has no bucket is treated as having a full one.

* `Bucket.available` is the number of tokens at a moment, `Bucket.take?` takes one.
* `Scope` is a family of buckets; `Scope.take` takes a token of an identifier, `Scope.remaining`
  looks without taking, and `Scope.evictIdle` drops the buckets not used for a while.
-/

namespace Footfall.Admission

/-- The tokens that a bucket held when it was last refilled. -/
structure Bucket (α : Type) where
  tokens : α
  lastRefill : Moment

namespace Bucket

variable {α : Type} [Scalar α]

/-- A full bucket. -/
def full (capacity : Nat) (now : Moment) : Bucket α := ⟨Scalar.ofNat capacity, now⟩

/-- The tokens at a moment: those of the last refill and a sixtieth of the capacity for each second
since, up to the capacity. -/
def available (b : Bucket α) (capacity : Nat) (now : Moment) : α :=
  let rate : α := Scalar.ofNat capacity / Scalar.ofNat 60
  Scalar.min (b.tokens + Scalar.seconds (elapsed b.lastRefill now) * rate) (Scalar.ofNat capacity)

/-- The bucket refilled. A clock that went backwards does not move the time of the refill. -/
def refill (b : Bucket α) (capacity : Nat) (now : Moment) : Bucket α :=
  ⟨b.available capacity now, if b.lastRefill < now then now else b.lastRefill⟩

/-- Refill and take one token, if there is one. -/
def take (b : Bucket α) (capacity : Nat) (now : Moment) : Bool × Bucket α :=
  let b := b.refill capacity now
  if Scalar.ofNat 1 ≤ b.tokens then (true, { b with tokens := b.tokens - Scalar.ofNat 1 })
  else (false, b)

end Bucket

/-- A family of buckets with a common capacity. -/
structure Scope (α : Type) where
  capacity : Nat
  buckets : Table String (Bucket α) := {}

namespace Scope

variable {α : Type} [Scalar α]

/-- A family without buckets. The capacity is at least one. -/
def new (limit : Nat) : Scope α := ⟨max limit 1, {}⟩

/-- The bucket of an identifier, full if it is seen for the first time. -/
def bucketOf (s : Scope α) (identifier : String) (now : Moment) : Bucket α :=
  (s.buckets.find? identifier).getD (Bucket.full s.capacity now)

/-- Take a token of an identifier. -/
def take (s : Scope α) (identifier : String) (now : Moment) : Bool × Scope α :=
  let (taken, b) := (s.bucketOf identifier now).take s.capacity now
  (taken, { s with buckets := s.buckets.put identifier b })

/-- The tokens of an identifier. -/
def remaining (s : Scope α) (identifier : String) (now : Moment) : α :=
  match s.buckets.find? identifier with
  | some b => b.available s.capacity now
  | none => Scalar.ofNat s.capacity

/-- The family with another limit. The buckets stay as they are. -/
def reconfigure (s : Scope α) (limit : Nat) : Scope α := { s with capacity := max limit 1 }

/-- The buckets that were used within the window, and how many were dropped. -/
def evictIdle (s : Scope α) (now : Moment) (window : Nat) : Nat × Scope α :=
  let kept := s.buckets.retain fun b => elapsed b.lastRefill now < window
  (s.buckets.size - kept.size, { s with buckets := kept })

end Scope

end Footfall.Admission
