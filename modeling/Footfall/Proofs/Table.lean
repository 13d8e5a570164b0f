import Mathlib.Data.List.Nodup
import Mathlib.Data.List.Perm.Subperm
import Footfall.Table

/-!
# Looking up in tables

Every operation on a table is known by what a look-up finds after it: `Table.find?_put`,
`Table.find?_erase` and `Table.find?_retain`. The keys of a table (`Table.keys`) are those that a
look-up finds, and their number is its size.
-/

namespace Footfall.Table

variable {κ ν : Type} [DecidableEq κ]

/-- The keys of a table, in the order in which they were put in. -/
def keys (t : Table κ ν) : List κ := t.entries.map (·.1)

omit [DecidableEq κ] in
theorem nodup_keys (t : Table κ ν) : t.keys.Nodup := t.nodup

omit [DecidableEq κ] in
@[simp] theorem length_keys (t : Table κ ν) : t.keys.length = t.size := List.length_map _

@[simp] theorem find?_empty (k : κ) : ({} : Table κ ν).find? k = none := rfl

/-- A look-up finds a value exactly when the table has the entry. -/
theorem find?_eq_some_iff {t : Table κ ν} {k : κ} {v : ν} :
    t.find? k = some v ↔ (k, v) ∈ t.entries := by
  unfold find?
  constructor
  · intro h
    obtain ⟨e, he, rfl⟩ := Option.map_eq_some_iff.1 h
    obtain rfl : e.1 = k := by simpa using List.find?_some he
    exact List.mem_of_find?_eq_some he
  · intro h
    obtain ⟨before, after, heq⟩ := List.append_of_mem h
    have hnodup := t.nodup
    rw [heq, List.map_append, List.nodup_append] at hnodup
    -- no entry before this one has the key
    have hbefore : before.find? (fun e => decide (e.1 = k)) = none := by
      rw [List.find?_eq_none]
      intro e he hk
      exact hnodup.2.2 e.1 (List.mem_map_of_mem he) k (by simp) (by simpa using hk)
    rw [heq, List.find?_append, hbefore, Option.none_or, List.find?_cons_of_pos (by simp)]
    rfl

theorem mem_keys {t : Table κ ν} {k : κ} : k ∈ t.keys ↔ ∃ v, t.find? k = some v := by
  simp only [keys, List.mem_map, find?_eq_some_iff]
  constructor
  · rintro ⟨⟨k', v⟩, he, rfl⟩
    exact ⟨v, he⟩
  · rintro ⟨v, he⟩
    exact ⟨_, he, rfl⟩

theorem has_iff {t : Table κ ν} {k : κ} : t.has k = true ↔ k ∈ t.keys := by
  rw [has, Option.isSome_iff_exists, mem_keys]

@[simp] theorem find?_put (t : Table κ ν) (k j : κ) (v : ν) :
    (t.put k v).find? j = if j = k then some v else t.find? j := by
  simp only [find?, put]
  induction t.entries with
  | nil => by_cases h : k = j <;> simp [putInto, h, eq_comm]
  | cons e r ih => by_cases he : e.1 = k <;> by_cases hj : e.1 = j <;> grind [putInto]

@[simp] theorem find?_erase (t : Table κ ν) (k j : κ) :
    (t.erase k).find? j = if j = k then none else t.find? j := by
  refine Option.ext fun v => ?_
  by_cases h : j = k <;> simp [find?_eq_some_iff, erase, h]

@[simp] theorem find?_retain (t : Table κ ν) (keep : ν → Bool) (k : κ) :
    (t.retain keep).find? k = (t.find? k).filter keep := by
  refine Option.ext fun v => ?_
  simp [find?_eq_some_iff, retain, Option.filter_eq_some_iff]

/-! ## The number of entries -/

theorem length_putInto (k : κ) (v : ν) (entries : List (κ × ν)) :
    (putInto k v entries).length =
      if k ∈ entries.map (·.1) then entries.length else entries.length + 1 := by
  induction entries with
  | nil => simp [putInto]
  | cons e r ih => by_cases he : e.1 = k <;> grind [putInto]

theorem size_put (t : Table κ ν) (k : κ) (v : ν) :
    (t.put k v).size = if k ∈ t.keys then t.size else t.size + 1 :=
  length_putInto k v t.entries

theorem size_erase_lt {t : Table κ ν} {k : κ} (h : k ∈ t.keys) : (t.erase k).size < t.size := by
  obtain ⟨e, he, rfl⟩ := List.mem_map.1 h
  exact List.length_filter_lt_length_iff_exists.2 ⟨e, he, by simp⟩

omit [DecidableEq κ] in
theorem size_retain_le (t : Table κ ν) (keep : ν → Bool) : (t.retain keep).size ≤ t.size :=
  List.length_filter_le ..

theorem size_retain_lt {t : Table κ ν} {keep : ν → Bool} {k : κ} {v : ν}
    (h : t.find? k = some v) (hv : keep v = false) : (t.retain keep).size < t.size :=
  List.length_filter_lt_length_iff_exists.2 ⟨(k, v), find?_eq_some_iff.1 h, by simp [hv]⟩

omit [DecidableEq κ] in
/-- A table whose keys are among those of another has no more entries. -/
theorem size_le_of_keys {t u : Table κ ν} (h : ∀ k ∈ t.keys, k ∈ u.keys) : t.size ≤ u.size := by
  rw [← length_keys, ← length_keys]
  exact (List.Nodup.subperm t.nodup_keys h).length_le

/-- Two tables in which a look-up finds the same have the same entries, up to their order. -/
theorem perm_of_find? {t u : Table κ ν} (h : ∀ k, t.find? k = u.find? k) :
    t.entries.Perm u.entries := by
  rw [List.perm_ext_iff_of_nodup (List.Nodup.of_map _ t.nodup) (List.Nodup.of_map _ u.nodup)]
  rintro ⟨k, v⟩
  rw [← find?_eq_some_iff, ← find?_eq_some_iff, h]

end Footfall.Table
