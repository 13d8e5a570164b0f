import Footfall.Gathering

/-!
# Distinct values and rankings

Breakdowns list the most frequent labels. The labels are counted in the order of their first
appearance and then sorted by count, so that labels with equal counts keep that order.

* `distinct` lists the values of a list once each, in order of first appearance.
* `sortBy key` sorts by a key, equal keys keeping their order.
* `topRows` is a breakdown: the most frequent labels with their counts.
-/

namespace Footfall

/-- The values of a list, each once, in order of first appearance. -/
def distinct {α : Type} [DecidableEq α] : List α → List α
  | [] => []
  | a :: r => a :: (distinct r).filter (· ≠ a)

/-- A list sorted by an ascending key; equal keys keep their order. -/
def sortBy {α β : Type} [LE β] [DecidableLE β] (key : α → β) (xs : List α) : List α :=
  xs.mergeSort fun a b => decide (key a ≤ key b)

/-- A list sorted by a descending key; equal keys keep their order. -/
def sortByDesc {α β : Type} [LE β] [DecidableLE β] (key : α → β) (xs : List α) : List α :=
  xs.mergeSort fun a b => decide (key b ≤ key a)

/-- A label and how often it occurs. -/
structure Row where
  label : String
  count : Nat
  deriving DecidableEq, Repr

/-- Every label with its count, in order of first appearance. -/
def countRows (labels : List String) : List Row := (tally labels).map fun (l, n) => ⟨l, n⟩

/-- The `limit` most frequent labels; equal counts are in order of first appearance. -/
def topRows (limit : Nat) (labels : List String) : List Row :=
  (sortByDesc Row.count (countRows labels)).take limit

end Footfall
