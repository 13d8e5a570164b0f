import Mathlib.Data.List.Nodup
import Mathlib.Data.List.Perm.Subperm
import Footfall.Proofs.Gathering

/-!
# The most frequent labels

The labels of a list are counted in one pass, which leaves one row for each of them
(`countRows_eq`).

Among the rows of a list there is one strict order: larger counts come first, and of equal counts
the one whose label occurs first (`Row.Before`). The sorted rows are in this order
(`pairwise_sortedRows`), and cutting them off leaves the first ones. `MostFrequent` says in the
terms of the labels what a list of the most frequent labels is, and `mostFrequent_iff` that
`topRows` is the only one.
-/

namespace Footfall

variable {limit : ℕ} {labels : List String} {rows : List Row}

/-! ## The order of the rows -/

theorem countRows_eq (labels : List String) :
    countRows labels = (distinct labels).map fun l => ⟨l, labels.count l⟩ := by
  rw [countRows, tally_eq, List.map_map]
  rfl

@[simp] theorem map_label_countRows (labels : List String) :
    (countRows labels).map Row.label = distinct labels := by
  simp [countRows_eq, Function.comp_def]

/-- A row comes before another one: it has a larger count, or the same count and its label occurs
first. -/
def Row.Before (labels : List String) (r s : Row) : Prop :=
  s.count < r.count ∨ r.count = s.count ∧ labels.idxOf r.label < labels.idxOf s.label

theorem Row.Before.asymm {r s : Row} (h : r.Before labels s) : ¬s.Before labels r := by
  rcases h with hcount | ⟨hcount, hfirst⟩ <;> rintro (hcount' | ⟨hcount', hfirst'⟩) <;> omega

/-- The rows of all labels in order. -/
def sortedRows (labels : List String) : List Row := sortByDesc Row.count (countRows labels)

theorem pairwise_sortedRows (labels : List String) :
    (sortedRows labels).Pairwise (Row.Before labels) := by
  have hfirst : (countRows labels).Pairwise fun r s =>
      labels.idxOf r.label < labels.idxOf s.label := by
    rw [countRows_eq]
    exact List.pairwise_map.2 (pairwise_distinct labels)
  exact pairwise_sortByDesc Row.count hfirst

/-- The sorted rows are those of the labels that occur, with the numbers of their occurrences. -/
theorem mem_sortedRows {r : Row} :
    r ∈ sortedRows labels ↔ r.label ∈ labels ∧ r.count = labels.count r.label := by
  rw [sortedRows, (sortByDesc_perm _ _).mem_iff, countRows_eq, List.mem_map]
  constructor
  · rintro ⟨l, hl, rfl⟩
    exact ⟨mem_distinct.1 hl, rfl⟩
  · rintro ⟨hmem, hcount⟩
    exact ⟨r.label, mem_distinct.2 hmem, by rw [← hcount]⟩

theorem nodup_label_sortedRows (labels : List String) :
    ((sortedRows labels).map Row.label).Nodup := by
  have hperm := (sortByDesc_perm Row.count (countRows labels)).map Row.label
  rw [sortedRows, hperm.nodup_iff, map_label_countRows]
  exact nodup_distinct labels

theorem length_sortedRows (labels : List String) :
    (sortedRows labels).length = labels.toFinset.card := by
  rw [sortedRows, (sortByDesc_perm _ _).length_eq, countRows_eq, List.length_map, length_distinct]

/-! ## The first rows -/

/-- The rows are those of the most frequent labels. -/
structure MostFrequent (limit : ℕ) (labels : List String) (rows : List Row) : Prop where
  /-- Only the limit keeps a label from having a row. -/
  length_eq : rows.length = min limit labels.toFinset.card
  nodup : (rows.map Row.label).Nodup
  mem : ∀ r ∈ rows, r.label ∈ labels
  count_eq : ∀ r ∈ rows, r.count = labels.count r.label
  descending : rows.Pairwise fun r s => s.count ≤ r.count
  /-- Equal counts are in order of first occurrence. -/
  first : rows.Pairwise fun r s =>
    r.count = s.count → labels.idxOf r.label < labels.idxOf s.label
  /-- No label that is left out occurs more often than one that is kept. -/
  leftOut_le : ∀ l ∈ labels, l ∉ rows.map Row.label → ∀ r ∈ rows, labels.count l ≤ r.count
  /-- Nor does it occur as often, but earlier for the first time. -/
  leftOut_first : ∀ l ∈ labels, l ∉ rows.map Row.label → ∀ r ∈ rows,
    labels.count l = r.count → labels.idxOf r.label < labels.idxOf l

theorem Row.before_iff {r s : Row} : r.Before labels s ↔
    s.count ≤ r.count ∧ (r.count = s.count → labels.idxOf r.label < labels.idxOf s.label) := by
  unfold Before
  omega

theorem mostFrequent_take (limit : ℕ) (labels : List String) :
    MostFrequent limit labels ((sortedRows labels).take limit) := by
  have hsub : ((sortedRows labels).take limit).Sublist (sortedRows labels) := List.take_sublist ..
  have hpairwise := (pairwise_sortedRows labels).sublist hsub
  -- a label that is left out has its row among those that are cut off
  have hcut : ∀ l ∈ labels, l ∉ ((sortedRows labels).take limit).map Row.label →
      ∀ r ∈ (sortedRows labels).take limit, r.Before labels ⟨l, labels.count l⟩ := by
    intro l hl hout r hr
    have hrow : (⟨l, labels.count l⟩ : Row) ∈ sortedRows labels := mem_sortedRows.2 ⟨hl, rfl⟩
    have hall := pairwise_sortedRows labels
    rw [← List.take_append_drop limit (sortedRows labels)] at hrow hall
    refine (List.pairwise_append.1 hall).2.2 r hr _ ((List.mem_append.1 hrow).resolve_left ?_)
    exact fun htake => hout (List.mem_map_of_mem htake)
  exact
    { length_eq := by rw [List.length_take, length_sortedRows]
      nodup := (nodup_label_sortedRows labels).sublist (hsub.map _)
      mem := fun r hr => (mem_sortedRows.1 (hsub.subset hr)).1
      count_eq := fun r hr => (mem_sortedRows.1 (hsub.subset hr)).2
      descending := hpairwise.imp fun h => (Row.before_iff.1 h).1
      first := hpairwise.imp fun h => (Row.before_iff.1 h).2
      leftOut_le := fun l hl hout r hr => (Row.before_iff.1 (hcut l hl hout r hr)).1
      leftOut_first := fun l hl hout r hr heq =>
        (Row.before_iff.1 (hcut l hl hout r hr)).2 heq.symm }

/-- Rows of the most frequent labels, followed by those of all other labels, are the sorted rows. -/
theorem MostFrequent.append_eq (h : MostFrequent limit labels rows) :
    rows ++ (sortedRows labels).filter (· ∉ rows) = sortedRows labels := by
  have hnodup : (sortedRows labels).Nodup := (nodup_label_sortedRows labels).of_map
  have hmem : ∀ r ∈ rows, r ∈ sortedRows labels :=
    fun r hr => mem_sortedRows.2 ⟨h.mem r hr, h.count_eq r hr⟩
  have hperm : (rows ++ (sortedRows labels).filter (· ∉ rows)).Perm (sortedRows labels) := by
    rw [List.perm_ext_iff_of_nodup ?_ hnodup]
    · intro r
      by_cases hr : r ∈ rows <;> simp [hr, hmem]
    · refine List.nodup_append.2 ⟨h.nodup.of_map, hnodup.filter _, fun r hr s hs heq => ?_⟩
      simp only [List.mem_filter, decide_eq_true_eq] at hs
      exact hs.2 (heq ▸ hr)
  have hordered : (rows ++ (sortedRows labels).filter (· ∉ rows)).Pairwise (Row.Before labels) := by
    refine List.pairwise_append.2 ⟨?_, (pairwise_sortedRows labels).filter _, ?_⟩
    · exact (h.descending.and h.first).imp Row.before_iff.2
    · intro r hr s hs
      simp only [List.mem_filter, decide_eq_true_eq, mem_sortedRows] at hs
      obtain ⟨⟨hlabel, hcount⟩, hout⟩ := hs
      have hleft : s.label ∉ rows.map Row.label := by
        intro hkept
        obtain ⟨t, ht, heq⟩ := List.mem_map.1 hkept
        have hts : t = s := by
          obtain ⟨l, n⟩ := t
          obtain ⟨l', n'⟩ := s
          obtain rfl : l = l' := heq
          rw [Row.mk.injEq]
          exact ⟨rfl, (h.count_eq _ ht).trans hcount.symm⟩
        exact hout (hts ▸ ht)
      rw [Row.before_iff, hcount]
      exact ⟨h.leftOut_le _ hlabel hleft r hr,
        fun heq => h.leftOut_first _ hlabel hleft r hr heq.symm⟩
  exact hperm.eq_of_pairwise (fun r s _ _ hrs hsr => absurd hsr hrs.asymm) hordered
    (pairwise_sortedRows labels)

/-- **A breakdown lists the most frequent labels.** For every list of labels and every limit,
`topRows` has as many rows as there are labels, up to the limit. Their labels are different, and
their counts exact. The counts descend, and equal ones are in order of first occurrence. A label
that is left out does not occur more often than one that is kept, nor as often but earlier. No other
list of rows is like this. -/
theorem mostFrequent_iff : MostFrequent limit labels rows ↔ rows = topRows limit labels := by
  constructor
  · intro h
    have htake := congrArg (List.take rows.length) h.append_eq
    rw [List.take_left, h.length_eq, ← length_sortedRows labels, ← List.take_eq_take_min] at htake
    exact htake
  · rintro rfl
    exact mostFrequent_take limit labels

/-- Of three labels that occur as often, the first two are kept. -/
example : topRows 2 ["docs", "blog", "shop", "blog", "docs", "shop"] =
    [⟨"docs", 2⟩, ⟨"blog", 2⟩] := by cbv

end Footfall
