import Mathlib.Algebra.Order.BigOperators.Group.Finset
import Mathlib.Algebra.Order.BigOperators.Group.List
import Mathlib.Data.Int.ConditionallyCompleteOrder
import Mathlib.Order.ConditionallyCompleteLattice.Basic
import Footfall.Proofs.Report.Heatmap
import Footfall.Proofs.Time

/-!
# The cells of a heatmap, and its peaks

Weekday and hour of an event follow from the number of its second by division with rounding down,
before 1970 as well as after (`Heatmap.ofEvents_ofMicros`).

The peaks of a grid rest on the totals of its hours and of its days.

* A total is added up cell by cell (`Heatmap.runningSum`). If the sum of the whole grid can be
  counted, so can all that is added up on the way (`Heatmap.IsGrid.runningSum_hour_mem`,
  `Heatmap.IsGrid.runningSum_day_mem`).
* The indices with a positive total are ranked in the only order that there is by total and index
  (`Heatmap.isRanking_iff`). The ranking is empty exactly if all cells are zero.

`Heatmap.ofEvents_peaks` puts these together.
-/

namespace Footfall.Heatmap

variable {m : Heatmap}

/-! ## Cells -/

/-- **The cell of an event** is told by its microseconds since 1970. -/
theorem ofEvents_ofMicros {events : List Event} {micros : Event → ℤ}
    (hmicros : ∀ e ∈ events, e.createdAt = .ofMicros (micros e)) (d : Fin 7) (h : Fin 24) :
    ofEvents events d h = events.countP fun e =>
      (micros e / 1000000 / 86400 + 4) % 7 = d.val ∧ micros e / 1000000 / 3600 % 24 = h.val := by
  rw [ofEvents_eq, Nat.cast_inj]
  refine List.countP_congr fun e he => ?_
  rw [hmicros e he]
  simp only [Timestamp.date, Timestamp.hour, Timestamp.secondOfDay, Date.weekday,
    Timestamp.seconds_ofMicros, decide_eq_true_eq]
  omega

/-! ## Totals -/

/-- The sum of the first `k` values, added up one after the other. -/
def runningSum {n : ℕ} (f : Fin n → ℤ) (k : ℕ) : ℤ :=
  ((List.finRange n).take k).foldl (fun s i => s + f i) 0

/-- The largest count. -/
def maxCount : ℤ := 2 ^ 63 - 1

/-- A grid of counts whose sum can be counted. -/
structure IsGrid (m : Heatmap) : Prop where
  nonneg : ∀ d h, 0 ≤ m d h
  sum_le : ∑ d, ∑ h, m d h ≤ maxCount

theorem hourTotal_eq_runningSum (m : Heatmap) (h : Fin 24) :
    m.hourTotal h = runningSum (fun d => m d h) 7 := rfl

theorem dayTotal_eq_runningSum (m : Heatmap) (d : Fin 7) :
    m.dayTotal d = runningSum (m d) 24 := rfl

/-- Adding up values that are not negative never passes their sum. -/
theorem runningSum_mem {n : ℕ} {f : Fin n → ℤ} (hf : ∀ i, 0 ≤ f i) (k : ℕ) :
    runningSum f k ∈ Set.Icc 0 (∑ i, f i) := by
  have hvalues : ∀ x ∈ (List.finRange n).map f, 0 ≤ x := by simpa using hf
  have hsub : (((List.finRange n).take k).map f).Sublist ((List.finRange n).map f) :=
    (List.take_sublist ..).map f
  rw [runningSum, ← List.foldl_map, ← List.sum_eq_foldl, Fin.sum_univ_def]
  exact ⟨List.sum_nonneg fun x hx => hvalues x (hsub.subset hx), hsub.sum_le_sum hvalues⟩

section Rows

variable {a b : ℕ} {f : Fin a → Fin b → ℤ}

/-- The sums on the way to the total of a row do not pass the sum of all rows. -/
theorem runningSum_row_mem (hf : ∀ i j, 0 ≤ f i j) (hsum : ∑ i, ∑ j, f i j ≤ maxCount)
    (i : Fin a) (k : ℕ) : runningSum (f i) k ∈ Set.Icc 0 maxCount := by
  obtain ⟨hnonneg, hle⟩ := runningSum_mem (hf i) k
  have hrow : ∑ j, f i j ≤ ∑ i, ∑ j, f i j :=
    Finset.single_le_sum (f := fun i => ∑ j, f i j)
      (fun i _ => Finset.sum_nonneg fun j _ => hf i j) (Finset.mem_univ i)
  exact ⟨hnonneg, hle.trans (hrow.trans hsum)⟩

/-- No row has a positive total exactly if there are only zeros. -/
theorem forall_sum_row_le_iff (hf : ∀ i j, 0 ≤ f i j) :
    (∀ i, ∑ j, f i j ≤ 0) ↔ ∀ i j, f i j = 0 := by
  refine forall_congr' fun i => ?_
  rw [(Finset.sum_nonneg fun j _ => hf i j).ge_iff_eq, eq_comm,
    Finset.sum_eq_zero_iff_of_nonneg fun j _ => hf i j]
  simp

end Rows

theorem IsGrid.runningSum_day_mem (hm : IsGrid m) (d : Fin 7) (k : ℕ) :
    runningSum (m d) k ∈ Set.Icc 0 maxCount :=
  runningSum_row_mem hm.nonneg hm.sum_le d k

theorem IsGrid.runningSum_hour_mem (hm : IsGrid m) (h : Fin 24) (k : ℕ) :
    runningSum (fun d => m d h) k ∈ Set.Icc 0 maxCount :=
  runningSum_row_mem (fun h d => hm.nonneg d h) (Finset.sum_comm.trans_le hm.sum_le) h k

/-! ## Rankings -/

/-- The indices with a positive total, the largest total first, and equal totals by index. -/
structure IsRanking {n : ℕ} (total : Fin n → ℤ) (ps : List (Peak n)) : Prop where
  mem_iff : ∀ p, p ∈ ps ↔ p.total = total p.index ∧ 0 < p.total
  ordered : ps.Pairwise fun p q => q.total < p.total ∨ p.total = q.total ∧ p.index < q.index

section Ranking

variable {n : ℕ} {total : Fin n → ℤ} {ps qs : List (Peak n)}

theorem isRanking_ranked (total : Fin n → ℤ) : IsRanking total (ranked total) where
  mem_iff p := by
    rw [ranked, (sortByDesc_perm Peak.total _).mem_iff, List.mem_filter, List.mem_map,
      decide_eq_true_eq]
    refine and_congr_left fun _ => ⟨?_, fun h => ⟨p.index, List.mem_finRange _, by rw [← h]⟩⟩
    rintro ⟨i, -, rfl⟩
    rfl
  ordered := by
    have hindices : ((List.finRange n).map fun i => Peak.mk i (total i)).Pairwise
        fun p q => p.index < q.index :=
      List.pairwise_map.2 (List.pairwise_lt_finRange n)
    exact pairwise_sortByDesc Peak.total (hindices.filter _)

theorem IsRanking.eq (h : IsRanking total ps) (h' : IsRanking total qs) : ps = qs := by
  have hnodup : ∀ {rs : List (Peak n)}, IsRanking total rs → rs.Nodup := by
    intro rs hrs
    refine hrs.ordered.imp fun {p q} hpq heq => ?_
    subst heq
    rcases hpq with hlt | ⟨-, hlt⟩ <;> exact lt_irrefl _ hlt
  have hperm : ps.Perm qs :=
    (List.perm_ext_iff_of_nodup (hnodup h) (hnodup h')).2 fun p => by rw [h.mem_iff, h'.mem_iff]
  refine hperm.eq_of_pairwise (fun p q _ _ hpq hqp => ?_) h.ordered h'.ordered
  rcases hpq with hpq | ⟨heq, hpq⟩ <;> rcases hqp with hqp | ⟨heq', hqp⟩ <;> omega

/-- **There is only one ranking** of some totals. -/
theorem isRanking_iff : IsRanking total ps ↔ ps = ranked total :=
  ⟨fun h => h.eq (isRanking_ranked total), fun h => h ▸ isRanking_ranked total⟩

theorem IsRanking.eq_nil_iff (h : IsRanking total ps) : ps = [] ↔ ∀ i, total i ≤ 0 := by
  rw [List.eq_nil_iff_forall_not_mem]
  constructor
  · exact fun hnone i => not_lt.1 fun hpos => hnone ⟨i, total i⟩ ((h.mem_iff _).2 ⟨rfl, hpos⟩)
  · rintro hzero p hp
    obtain ⟨htotal, hpos⟩ := (h.mem_iff p).1 hp
    exact (hzero p.index).not_gt (htotal ▸ hpos)

end Ranking

/-! ## Peaks -/

/-- The peaks of a grid: the first five hours and the first three days of the rankings by total. -/
structure IsPeaksOf (m : Heatmap) (p : Peaks) : Prop where
  hours : ∃ ps, IsRanking (fun h => ∑ d, m d h) ps ∧ p.hours = ps.take 5 ∧ p.hour? = ps.head?
  days : ∃ ps, IsRanking (fun d => ∑ h, m d h) ps ∧ p.days = ps.take 3 ∧ p.day? = ps.head?
  hour_eq_none_iff : p.hour? = none ↔ ∀ d h, m d h = 0
  day_eq_none_iff : p.day? = none ↔ ∀ d h, m d h = 0

theorem isRanking_hours (m : Heatmap) :
    IsRanking (fun h => ∑ d, m d h) (ranked m.hourTotal) := by
  rw [← funext (hourTotal_eq_sum m)]
  exact isRanking_ranked _

theorem isRanking_days (m : Heatmap) :
    IsRanking (fun d => ∑ h, m d h) (ranked m.dayTotal) := by
  rw [← funext (dayTotal_eq_sum m)]
  exact isRanking_ranked _

theorem IsGrid.isPeaksOf_peaks (hm : IsGrid m) : IsPeaksOf m m.peaks := by
  have hhour : m.peaks.hour? = (ranked m.hourTotal).head? := List.head?_take
  have hday : m.peaks.day? = (ranked m.dayTotal).head? := List.head?_take
  exact
    { hours := ⟨_, isRanking_hours m, rfl, hhour⟩
      days := ⟨_, isRanking_days m, rfl, hday⟩
      hour_eq_none_iff := by
        rw [hhour, List.head?_eq_none_iff, (isRanking_hours m).eq_nil_iff,
          forall_sum_row_le_iff fun h d => hm.nonneg d h, forall_comm]
      day_eq_none_iff := by
        rw [hday, List.head?_eq_none_iff, (isRanking_days m).eq_nil_iff,
          forall_sum_row_le_iff hm.nonneg] }

/-- **Heatmap and peaks.** The cells of a heatmap count the events by the weekday and the hour of
their second, rounded down, on both sides of the beginning of 1970. For every grid of counts whose
sum can be counted, nothing that is added up on the way to a total leaves the range of counts; its
peaks are the first five hours and the first three days with a positive total, the largest total
first and equal totals by index. The peak hour and the peak day are the first of each, and there are
none exactly if all cells are zero. -/
theorem ofEvents_peaks :
    (∀ {events : List Event} {micros : Event → ℤ},
      (∀ e ∈ events, e.createdAt = .ofMicros (micros e)) → ∀ d h,
        ofEvents events d h = events.countP fun e =>
          (micros e / 1000000 / 86400 + 4) % 7 = d.val ∧
            micros e / 1000000 / 3600 % 24 = h.val) ∧
    ∀ {m : Heatmap}, IsGrid m →
      (∀ h, m.hourTotal h = runningSum (fun d => m d h) 7 ∧
        ∀ k, runningSum (fun d => m d h) k ∈ Set.Icc 0 maxCount) ∧
      (∀ d, m.dayTotal d = runningSum (m d) 24 ∧
        ∀ k, runningSum (m d) k ∈ Set.Icc 0 maxCount) ∧
      IsPeaksOf m m.peaks :=
  ⟨ofEvents_ofMicros, fun hm =>
    ⟨fun h => ⟨hourTotal_eq_runningSum _ h, hm.runningSum_hour_mem h⟩,
      fun d => ⟨dayTotal_eq_runningSum _ d, hm.runningSum_day_mem d⟩, hm.isPeaksOf_peaks⟩⟩

/-- The last microsecond before 1970 is late on a Wednesday. Two hours and two days with equal
totals come in the order of the week. -/
theorem ofEvents_peaks_last_microsecond :
    let last : Event := Event.bare "shop" .pageview "/" "visit" "visitor" (.ofMicros (-1))
    let grid : Heatmap := fun d h => if d = 5 ∧ h = 4 ∨ d = 3 ∧ h = 23 then 2 else 0
    (∀ e ∈ [last], e.createdAt = .ofMicros (-1)) ∧ ofEvents [last] 3 23 = 1 ∧ IsGrid grid ∧
      IsPeaksOf grid grid.peaks ∧ grid.peaks.hour? = some ⟨4, 2⟩ ∧
      grid.peaks.day? = some ⟨3, 2⟩ := by
  intro last grid
  have hlast : ∀ e ∈ [last], e.createdAt = .ofMicros (-1) := by simp [last, Event.bare]
  have hgrid : IsGrid grid := ⟨by decide, by decide⟩
  obtain ⟨hcells, hpeaks⟩ := ofEvents_peaks
  -- the positive totals of this grid are found in the order in which they are ranked
  have hhours : ranked grid.hourTotal = ((List.finRange 24).map fun i =>
      Peak.mk i (grid.hourTotal i)).filter fun p => 0 < p.total :=
    List.mergeSort_of_pairwise (by decide +kernel)
  have hdays : ranked grid.dayTotal = ((List.finRange 7).map fun i =>
      Peak.mk i (grid.dayTotal i)).filter fun p => 0 < p.total :=
    List.mergeSort_of_pairwise (by decide +kernel)
  refine ⟨hlast, @hcells [last] (fun _ => -1) hlast 3 23, hgrid, (hpeaks hgrid).2.2, ?_, ?_⟩
  · rw [Peaks.hour?, peaks, hhours]
    decide +kernel
  · rw [Peaks.day?, peaks, hdays]
    decide +kernel

end Footfall.Heatmap
