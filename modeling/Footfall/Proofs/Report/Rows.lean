import Mathlib.Algebra.BigOperators.Group.List.Lemmas
import Mathlib.Algebra.Order.BigOperators.Group.List
import Mathlib.Algebra.Order.Ring.Nat
import Footfall.Proofs.Report.TopRows
import Footfall.Proofs.Text.Digits
import Footfall.Report.Basic

/-!
# The rows of breakdowns

A breakdown counts how often each of some values occurs and shows the first rows of these counts in
some order: the most frequent labels (`topRows`), or the depths of scrolls from the top of the page
on (`Report.scrollRows`).

* `labelledTally` has all rows. Its labels are different and its counts positive, and these add up
  to the number of values (`sum_labelledTally`).
* Whatever the order, some of these rows have different labels and positive counts as well
  (`isBreakdown_take`), and their counts add up to the number of values exactly if no row is left
  out (`sum_take_eq_iff`).
-/

namespace Footfall

/-- A breakdown with at most `limit` rows of things that are `total` in number. -/
structure IsBreakdown (limit total : ℕ) (rows : List Row) : Prop where
  length_le : rows.length ≤ limit
  nodup : (rows.map Row.label).Nodup
  pos : ∀ r ∈ rows, 0 < r.count
  sum_le : (rows.map Row.count).sum ≤ total

section Tally

variable {α : Type} [DecidableEq α] {label : α → String} {xs : List α} {rows : List Row}
  {total : ℕ}

/-- Every value of a list once, by its label, with the number of its occurrences. -/
def labelledTally (label : α → String) (xs : List α) : List Row :=
  (tally xs).map fun p => ⟨label p.1, p.2⟩

theorem labelledTally_eq (label : α → String) (xs : List α) :
    labelledTally label xs = (distinct xs).map fun x => ⟨label x, xs.count x⟩ := by
  rw [labelledTally, tally_eq, List.map_map]
  rfl

theorem length_labelledTally (label : α → String) (xs : List α) :
    (labelledTally label xs).length = xs.toFinset.card := by
  rw [labelledTally_eq, List.length_map, length_distinct]

theorem nodup_labelledTally (hlabel : Function.Injective label) :
    ((labelledTally label xs).map Row.label).Nodup := by
  rw [labelledTally_eq, List.map_map]
  exact (nodup_distinct xs).map hlabel

theorem pos_of_mem_labelledTally {r : Row} (hr : r ∈ labelledTally label xs) : 0 < r.count := by
  rw [labelledTally_eq] at hr
  obtain ⟨x, hx, rfl⟩ := List.mem_map.1 hr
  exact List.count_pos_iff.2 (mem_distinct.1 hx)

/-- **The counts of a tally** add up to the number of values. -/
theorem sum_labelledTally : ((labelledTally label xs).map Row.count).sum = xs.length := by
  have hdedup : (distinct xs).Perm xs.dedup :=
    (List.perm_ext_iff_of_nodup (nodup_distinct xs) xs.nodup_dedup).2 fun x => by simp
  rw [labelledTally_eq, List.map_map]
  exact (hdedup.map _).sum_eq.trans (List.sum_map_count_dedup_eq_length xs)

/-- The counts of the rows that are shown and of those that are left out add up to the number of
values. -/
theorem sum_take_add_sum_drop (limit : ℕ) (hrows : rows.Perm (labelledTally label xs)) :
    ((rows.take limit).map Row.count).sum + ((rows.drop limit).map Row.count).sum = xs.length := by
  rw [List.map_take, List.map_drop, List.sum_take_add_sum_drop, (hrows.map _).sum_eq,
    sum_labelledTally]

theorem isBreakdown_take (limit : ℕ) (hlabel : Function.Injective label)
    (hrows : rows.Perm (labelledTally label xs)) (htotal : xs.length ≤ total) :
    IsBreakdown limit total (rows.take limit) where
  length_le := List.length_take_le ..
  nodup := ((hrows.map Row.label).nodup_iff.2 (nodup_labelledTally hlabel)).sublist
    ((List.take_sublist ..).map _)
  pos r hr := pos_of_mem_labelledTally (hrows.mem_iff.1 (List.mem_of_mem_take hr))
  sum_le := by
    have hsum := sum_take_add_sum_drop limit hrows
    omega

/-- **Nothing is left out** exactly if there are not too many different values. -/
theorem sum_take_eq_iff (limit : ℕ) (hrows : rows.Perm (labelledTally label xs)) :
    ((rows.take limit).map Row.count).sum = xs.length ↔ xs.toFinset.card ≤ limit := by
  have hsum := sum_take_add_sum_drop limit hrows
  have hdrop : ((rows.drop limit).map Row.count).sum = 0 ↔ rows.drop limit = [] := by
    constructor
    · intro hzero
      refine List.eq_nil_iff_forall_not_mem.2 fun r hr => ?_
      have hpos := pos_of_mem_labelledTally (hrows.mem_iff.1 (List.mem_of_mem_drop hr))
      have hcount := List.sum_eq_zero_iff.1 hzero _ (List.mem_map_of_mem hr)
      omega
    · intro hnil
      rw [hnil]
      rfl
  rw [← length_labelledTally label, ← hrows.length_eq, ← List.drop_eq_nil_iff, ← hdrop]
  omega

end Tally

/-! ## The most frequent labels -/

section TopRows

variable {limit total : ℕ} {labels : List String}

theorem topRows_perm (labels : List String) :
    (sortByDesc Row.count (countRows labels)).Perm (labelledTally id labels) :=
  sortByDesc_perm _ _

theorem isBreakdown_topRows (htotal : labels.length ≤ total) :
    IsBreakdown limit total (topRows limit labels) :=
  isBreakdown_take limit Function.injective_id (topRows_perm labels) htotal

theorem sum_topRows_eq_iff (limit : ℕ) (labels : List String) :
    ((topRows limit labels).map Row.count).sum = labels.length ↔ labels.toFinset.card ≤ limit :=
  sum_take_eq_iff limit (topRows_perm labels)

end TopRows

/-! ## The breakdowns of a report -/

namespace Report

variable {total : ℕ} {events : List Event}

theorem length_ofKind_le (kind : EventKind) (events : List Event) :
    (ofKind kind events).length ≤ events.length :=
  List.length_filter_le ..

theorem isBreakdown_breakdown (label : Event → Option String) (htotal : events.length ≤ total) :
    IsBreakdown rowLimit total (breakdown label events) :=
  isBreakdown_topRows ((List.length_filterMap_le ..).trans htotal)

theorem depthLabel_injective : Function.Injective fun d : ℤ => toString d ++ "%" := by
  intro d e heq
  rwa [String.append_left_inj, Text.toString_inj] at heq

theorem isBreakdown_scrollRows (htotal : events.length ≤ total) :
    IsBreakdown rowLimit total (scrollRows events) := by
  set depths := (ofKind .scroll events).filterMap Event.scrollDepth with hdepths
  have hrows : ((sortBy Prod.fst (tally depths)).map fun t => ⟨toString t.1 ++ "%", t.2⟩).Perm
      (labelledTally (fun d => toString d ++ "%") depths) := (sortBy_perm Prod.fst _).map _
  have hlength : depths.length ≤ total :=
    (List.length_filterMap_le ..).trans ((length_ofKind_le ..).trans htotal)
  have htake := isBreakdown_take rowLimit depthLabel_injective hrows hlength
  rwa [← List.map_take] at htake

end Report

end Footfall
