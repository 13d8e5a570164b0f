import Footfall.Scalar
import Footfall.Time.Timestamp

/-!
# Traffic windows

The traffic of a project is measured in windows of at least a minute. An event closes the window
when it comes at least a minute after the window opened; it still counts in that window, and the
next one opens at its instant. The rate of the first window is the baseline. A later window spikes
when its rate is at least twice the baseline and above ten events a minute; if it does not, its
rate is folded into the baseline with the weight of a tenth.
-/

namespace Footfall.Traffic

/-- The length of a window, in nanoseconds. -/
def windowLength : Nat := 60 * 1000000000

/-- The open window of a project and the baseline so far. -/
structure Window (α : Type) where
  startedAt : Moment
  count : Nat
  baseline : Option α

/-- What an event of a window shows. -/
inductive Observation (α : Type) where
  /-- The window stays open. -/
  | pending
  /-- The window closed without a spike. -/
  | settled
  /-- The window closed with a spike. -/
  | spike (rate baseline : α) (count nanos : Nat)

namespace Window

variable {α : Type} [Scalar α]

/-- A window that opens now. -/
def opening (now : Moment) : Window α := ⟨now, 0, none⟩

/-- Events per minute. -/
def rate (count nanos : Nat) : α :=
  Scalar.ofNat count / (Scalar.seconds nanos / Scalar.ofNat 60)

/-- Is the rate a spike over the baseline? -/
def isSpike (rate baseline : α) : Bool :=
  decide (Scalar.ofNat 2 * baseline ≤ rate) && decide (Scalar.ofNat 10 < rate)

/-- The baseline with the rate of a quiet window folded in. -/
def smoothed (baseline rate : α) : α :=
  let weight : α := Scalar.ofNat 1 / Scalar.ofNat 10
  (Scalar.ofNat 1 - weight) * baseline + weight * rate

/-- Count one event. -/
def observe (w : Window α) (now : Moment) : Observation α × Window α :=
  let count := w.count + 1
  let nanos := elapsed w.startedAt now
  if nanos < windowLength then (.pending, { w with count })
  else
    let current : α := rate count nanos
    match w.baseline with
    | none => (.settled, ⟨now, 0, some current⟩)
    | some b =>
      if isSpike current b then (.spike current b count nanos, ⟨now, 0, some b⟩)
      else (.settled, ⟨now, 0, some (smoothed b current)⟩)

end Window

end Footfall.Traffic
