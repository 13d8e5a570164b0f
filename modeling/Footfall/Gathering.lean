import Footfall.Table

/-!
# Gathering rows in one pass

Sessions, breakdowns and the views of revenue are gathered in one pass over a list. Every value has
a key, and goes to the row of its key. The first value of a key opens the row, behind the others.

* `Gathering` is the state of a pass, and `Gathering.add` takes one value in.
* `gather` is the pass, and `tally` the one that counts.
-/

namespace Footfall

/-- The rows that are open, in the order in which they were opened, and the place of the row of
every key among them. -/
structure Gathering (κ ρ : Type) where
  places : Table κ Nat := {}
  rows : List ρ := []

section

variable {α κ ρ : Type} [DecidableEq κ]

/-- Take a value in: it changes the row at the place of its key, or a new one. -/
def Gathering.add (key : α → κ) (new : κ → ρ) (change : ρ → α → ρ) (g : Gathering κ ρ) (a : α) :
    Gathering κ ρ :=
  match g.places.find? (key a) with
  | some place => { g with rows := g.rows.modify place fun r => change r a }
  | none =>
    { places := g.places.put (key a) g.rows.length
      rows := g.rows ++ [change (new (key a)) a] }

/-- The rows of a list of values. -/
def gather (key : α → κ) (new : κ → ρ) (change : ρ → α → ρ) (xs : List α) : List ρ :=
  (xs.foldl (Gathering.add key new change) {}).rows

/-- The different values of a list, each with the number of times that it occurs. -/
def tally (xs : List κ) : List (κ × Nat) :=
  gather id (fun x => (x, 0)) (fun r _ => (r.1, r.2 + 1)) xs

end

end Footfall
