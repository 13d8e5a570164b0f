import Mathlib.Algebra.BigOperators.Fin
import Mathlib.Algebra.BigOperators.Group.Finset.Sigma
import Mathlib.Algebra.Order.Ring.Int
import Footfall.Proofs.Ranking
import Footfall.Report.Heatmap

/-!
# The sums of a heatmap

Every event has one weekday and one hour, its cell (`Heatmap.cell`), and a heatmap, which is made
event by event, counts the events of each cell (`Heatmap.ofEvents_eq_countP`). So its cells sum to
the number of events (`Heatmap.sum_ofEvents`), and the totals of the hours and of the days are the
sums along either direction (`Heatmap.hourTotal_eq_sum`, `Heatmap.dayTotal_eq_sum`). Peaks show some
of these totals (`Heatmap.total_of_mem_ranked`).
-/

namespace Footfall

theorem Date.weekday_lt (d : Date) : d.weekday < 7 := by
  simp only [weekday]
  omega

theorem Timestamp.hour_lt (t : Timestamp) : t.hour < 24 := by
  simp only [hour, secondOfDay]
  omega

namespace Heatmap

variable {events : List Event}

/-- **Counting event by event** gives every cell the number of its events. -/
theorem ofEvents_eq (events : List Event) (d : Fin 7) (h : Fin 24) :
    ofEvents events d h =
      events.countP fun e => e.createdAt.date.weekday = d.val ∧ e.createdAt.hour = h.val := by
  induction events using List.reverseRecOn with
  | nil => rfl
  | append_singleton events e ih =>
    rw [ofEvents] at ih
    rw [ofEvents, List.foldl_concat, add, ih, List.countP_append, List.countP_singleton]
    split_ifs <;> simp_all

/-- The weekday and the hour of an event. -/
def cell (e : Event) : Fin 7 × Fin 24 :=
  (⟨e.createdAt.date.weekday, Date.weekday_lt _⟩, ⟨e.createdAt.hour, Timestamp.hour_lt _⟩)

theorem ofEvents_eq_countP (events : List Event) (d : Fin 7) (h : Fin 24) :
    ofEvents events d h = events.countP fun e => cell e = (d, h) := by
  simp only [ofEvents_eq, cell, Prod.mk.injEq, Fin.ext_iff]

/-- Counting the values of a list by what a function gives for them counts each of them once. -/
theorem sum_countP_eq_length {α β : Type} [Fintype β] [DecidableEq β] (f : α → β) (xs : List α) :
    ∑ b, xs.countP (fun a => f a = b) = xs.length := by
  induction xs with
  | nil => simp
  | cons a r ih => simp [List.countP_cons, Finset.sum_add_distrib, ih]

/-- **The cells of a heatmap** sum to the number of events. -/
theorem sum_ofEvents (events : List Event) :
    ∑ d, ∑ h, ofEvents events d h = events.length := by
  simp only [ofEvents_eq_countP]
  rw [← Fintype.sum_prod_type', ← sum_countP_eq_length cell events, Nat.cast_sum]

theorem hourTotal_eq_sum (m : Heatmap) (h : Fin 24) : m.hourTotal h = ∑ d, m d h := by
  rw [hourTotal, ← List.foldl_map (f := fun d => m d h), ← List.sum_eq_foldl, Fin.sum_univ_def]

theorem dayTotal_eq_sum (m : Heatmap) (d : Fin 7) : m.dayTotal d = ∑ h, m d h := by
  rw [dayTotal, ← List.foldl_map (f := m d), ← List.sum_eq_foldl, Fin.sum_univ_def]

theorem sum_hourTotal (events : List Event) :
    ∑ h, (ofEvents events).hourTotal h = events.length := by
  simp only [hourTotal_eq_sum]
  rw [Finset.sum_comm, sum_ofEvents]

theorem sum_dayTotal (events : List Event) :
    ∑ d, (ofEvents events).dayTotal d = events.length := by
  simp only [dayTotal_eq_sum]
  exact sum_ofEvents events

theorem total_of_mem_ranked {n : ℕ} {total : Fin n → ℤ} {p : Peak n} (hp : p ∈ ranked total) :
    p.total = total p.index := by
  have hmem := (List.mem_filter.1 ((sortByDesc_perm Peak.total _).mem_iff.1 hp)).1
  obtain ⟨i, -, rfl⟩ := List.mem_map.1 hmem
  rfl

end Heatmap

end Footfall
