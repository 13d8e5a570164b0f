import Footfall.Event.Basic
import Footfall.Ranking

/-!
# The heatmap and its peaks

Events are counted by weekday and hour. The peaks are the hours and the days with the largest
totals; totals of zero are no peaks, and of equal totals the earlier hour or day comes first.

* `Heatmap` is a grid of counts, `Heatmap.ofEvents` the one of a list of events.
* `Heatmap.hourTotal` and `Heatmap.dayTotal` are its marginal sums.
* `Heatmap.peaks` lists the largest of them.
-/

namespace Footfall

/-- Counts by weekday, Sunday first, and hour. -/
abbrev Heatmap := Fin 7 → Fin 24 → Int

/-- The names of the weekdays, Sunday first. -/
def dayName (d : Fin 7) : String :=
  match d with
  | 0 => "Sunday"
  | 1 => "Monday"
  | 2 => "Tuesday"
  | 3 => "Wednesday"
  | 4 => "Thursday"
  | 5 => "Friday"
  | 6 => "Saturday"

/-- A peak: an index and its total. -/
structure Peak (n : Nat) where
  index : Fin n
  total : Int
  deriving DecidableEq, Repr

/-- The most active hours and days. -/
structure Peaks where
  hours : List (Peak 24)
  days : List (Peak 7)

namespace Heatmap

/-- A grid with one more event, which counts in the cell of its weekday and hour. -/
def add (m : Heatmap) (e : Event) : Heatmap := fun d h =>
  if e.createdAt.date.weekday = d.val ∧ e.createdAt.hour = h.val then m d h + 1 else m d h

/-- The grid of a list of events. They are counted one after the other. -/
def ofEvents (events : List Event) : Heatmap := events.foldl add fun _ _ => 0

/-- The total of an hour over all days. -/
def hourTotal (m : Heatmap) (h : Fin 24) : Int := (List.finRange 7).foldl (fun n d => n + m d h) 0

/-- The total of a day over all hours. -/
def dayTotal (m : Heatmap) (d : Fin 7) : Int := (List.finRange 24).foldl (fun n h => n + m d h) 0

/-- The indices with a positive total, the largest total first; equal totals by index. -/
def ranked {n : Nat} (total : Fin n → Int) : List (Peak n) :=
  sortByDesc Peak.total
    (((List.finRange n).map fun i => Peak.mk i (total i)).filter fun p => 0 < p.total)

/-- The five most active hours and the three most active days. -/
def peaks (m : Heatmap) : Peaks := ⟨(ranked m.hourTotal).take 5, (ranked m.dayTotal).take 3⟩

end Heatmap

/-- The most active hour. -/
def Peaks.hour? (p : Peaks) : Option (Peak 24) := p.hours.head?

/-- The most active day. -/
def Peaks.day? (p : Peaks) : Option (Peak 7) := p.days.head?

end Footfall
