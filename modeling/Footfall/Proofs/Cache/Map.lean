import Footfall.Proofs.Table
import Footfall.Cache

/-!
# Caches of other values

A cache never looks at the values that it holds. So replacing every value by a function of it can be
done before an operation or after it: `Cache.get_map`, `Cache.map_insert`, `Cache.getOrCompute_map`
and `Cache.map_invalidate` say so for the operations, and `Table.find?_map`, `Table.map_put`,
`Table.map_erase` and `Table.map_retain` for the tables underneath.
-/

namespace Footfall

variable {κ ν μ : Type}

namespace Table

/-- A table with every value replaced by a function of it. -/
def map (f : ν → μ) (t : Table κ ν) : Table κ μ :=
  ⟨t.entries.map fun e => (e.1, f e.2), by
    have hnodup := t.nodup
    rwa [List.map_map]⟩

theorem eq_of_entries {t u : Table κ ν} (h : t.entries = u.entries) : t = u := by
  cases t
  cases u
  cases h
  rfl

variable (f : ν → μ) (t : Table κ ν)

@[simp] theorem size_map : (t.map f).size = t.size := List.length_map _

theorem map_retain {keep : ν → Bool} {keep' : μ → Bool} (h : ∀ v, keep' (f v) = keep v) :
    (t.retain keep).map f = (t.map f).retain keep' := by
  refine eq_of_entries ?_
  simp only [map, retain, List.filter_map, Function.comp_def, h]

variable [DecidableEq κ] (k : κ)

@[simp] theorem find?_map : (t.map f).find? k = (t.find? k).map f := by
  simp only [find?, map, List.find?_map, Option.map_map, Function.comp_def]

@[simp] theorem has_map : (t.map f).has k = t.has k := by
  simp [has]

theorem map_put (v : ν) : (t.put k v).map f = (t.map f).put k (f v) := by
  refine eq_of_entries ?_
  simp only [map, put]
  induction t.entries with
  | nil => rfl
  | cons e r ih => by_cases he : e.1 = k <;> simp [putInto, he, ih]

theorem map_erase : (t.erase k).map f = (t.map f).erase k := by
  refine eq_of_entries ?_
  simp only [map, erase, List.filter_map, Function.comp_def]

end Table

/-- An entry with its value replaced by a function of it. -/
def CacheEntry.map (f : ν → μ) (e : CacheEntry ν) : CacheEntry μ := ⟨f e.value, e.touchedAt⟩

@[simp] theorem CacheEntry.touchedAt_map (f : ν → μ) (e : CacheEntry ν) :
    (e.map f).touchedAt = e.touchedAt := rfl

namespace Cache

/-- A cache with every value replaced by a function of it. -/
def map (f : ν → μ) (c : Cache κ ν) : Cache κ μ :=
  ⟨c.expiry, c.capacity, c.entries.map (CacheEntry.map f)⟩

variable (f : ν → μ) (c : Cache κ ν) (k : κ) (now : Moment)

/-- Which entry is the oldest is told by the moments alone. -/
theorem oldest_map (entries : List (κ × CacheEntry ν)) :
    oldest (entries.map fun e => (e.1, e.2.map f)) = oldest entries := by
  cases entries with
  | nil => rfl
  | cons e r =>
    simp only [List.map_cons, oldest, List.foldl_map, CacheEntry.touchedAt_map]
    have hstep : ∀ best e' : κ × CacheEntry ν,
        (if e'.2.touchedAt < (best.2.map f).touchedAt then (e'.1, e'.2.map f)
          else (best.1, best.2.map f)) =
        ((if e'.2.touchedAt < best.2.touchedAt then e' else best).1,
          (if e'.2.touchedAt < best.2.touchedAt then e' else best).2.map f) := by
      intro best e'
      by_cases h : e'.2.touchedAt < best.2.touchedAt <;> simp [h]
    rw [List.foldl_hom (fun e : κ × CacheEntry ν => (e.1, e.2.map f)) hstep]

theorem isLive_map (e : CacheEntry ν) : (c.map f).isLive now (e.map f) = c.isLive now e := rfl

variable [DecidableEq κ]

theorem map_touch (e : CacheEntry ν) :
    (c.touch k e now).map f = (c.map f).touch k (e.map f) now := by
  by_cases h : c.expiry.refreshes
  · simp [touch, map, h, Table.map_put, CacheEntry.map]
  · simp [touch, map, h]

theorem map_invalidate : (c.invalidate k).map f = (c.map f).invalidate k := by
  simp only [map, invalidate, Table.map_erase]

/-- **A look-up** finds the value that was put there. -/
theorem get_map : (c.map f).get k now = ((c.get k now).1.map f, (c.get k now).2.map f) := by
  have hfind : (c.map f).entries.find? k = (c.entries.find? k).map (CacheEntry.map f) :=
    Table.find?_map ..
  rw [get, get, hfind]
  cases c.entries.find? k with
  | none => rfl
  | some e =>
    simp only [Option.map_some, isLive_map]
    by_cases hlive : c.isLive now e
    · simp only [hlive, if_true, map_touch, Option.map_some, CacheEntry.map]
    · simp only [hlive, if_false, Bool.false_eq_true, Option.map_none]
      exact congrArg (Prod.mk none) (map_invalidate f c k).symm

theorem map_makeRoom : (c.makeRoom now).map f = (c.map f).makeRoom now := by
  have hlive : (c.map f).entries.retain ((c.map f).isLive now) =
      (c.entries.retain (c.isLive now)).map (CacheEntry.map f) :=
    (Table.map_retain _ _ (isLive_map f c now)).symm
  simp only [makeRoom, hlive, Table.size_map]
  by_cases hroom : (c.entries.retain (c.isLive now)).size < c.capacity
  · rw [if_pos hroom, if_pos (show _ < (c.map f).capacity from hroom)]
    rfl
  · rw [if_neg hroom, if_neg (show ¬_ < (c.map f).capacity from hroom)]
    have holdest : oldest ((c.entries.retain (c.isLive now)).map (CacheEntry.map f)).entries =
        oldest (c.entries.retain (c.isLive now)).entries := oldest_map f _
    rw [holdest]
    cases oldest (c.entries.retain (c.isLive now)).entries with
    | none => rfl
    | some key => simp only [map, Table.map_erase]

/-- **A write** drives out the same entries. -/
theorem map_insert (v : ν) : (c.insert k v now).map f = (c.map f).insert k (f v) now := by
  have hput : ∀ d : Cache κ ν, ({ d with entries := d.entries.put k ⟨v, now⟩ } : Cache κ ν).map f =
      { d.map f with entries := (d.map f).entries.put k ⟨f v, now⟩ } := by
    intro d
    simp only [map, Table.map_put, CacheEntry.map]
  have hroom : ((c.map f).entries.has k || (c.map f).entries.size < (c.map f).capacity) =
      (c.entries.has k || c.entries.size < c.capacity) := by
    simp [map]
  rw [insert, insert, hput, hroom]
  split_ifs
  · rfl
  · rw [map_makeRoom]

/-- **Reading through** a cache. -/
theorem getOrCompute_map {ε : Type} (load : Unit → Except ε ν) :
    (c.map f).getOrCompute k (fun u => (load u).map f) now =
      ((c.getOrCompute k load now).1.map (Prod.map f id),
        (c.getOrCompute k load now).2.map f) := by
  rw [getOrCompute, getOrCompute, get_map]
  rcases c.get k now with ⟨_ | v, c'⟩
  · cases load () with
    | error e => rfl
    | ok v => simp only [Option.map_none, Except.map, map_insert, Prod.map, id]
  · rfl

end Cache

end Footfall
