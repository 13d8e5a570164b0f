import Mathlib.Data.Finset.Card
import Footfall.Cache
import Footfall.Proofs.Table

/-!
# What the operations of a cache do to its entries

A lookup finds the live entry of its key (`Cache.get_fst`), starts its time anew if reads do, and
removes it if it has expired (`Cache.find?_get`). A write puts the entry of its key
(`Cache.find?_insert`); it may drive out other entries, but brings none back
(`Cache.find?_of_find?_insert`), and drives out none while there is room
(`Cache.find?_insert_of_room`). Obtaining a value is a lookup or, if it finds none, a write
(`Cache.obtain_eq`).
-/

namespace Footfall.Cache

variable {κ ν : Type} [DecidableEq κ] (c : Cache κ ν) (k j : κ) (v : ν) (now : Moment)

/-- The live entry of a key. -/
def live? : Option (CacheEntry ν) := (c.entries.find? k).filter (c.isLive now)

/-- An entry after a successful read. -/
def read (e : CacheEntry ν) : CacheEntry ν :=
  if c.expiry.refreshes then { e with touchedAt := now } else e

theorem live?_eq_some_iff {e : CacheEntry ν} :
    c.live? k now = some e ↔
      c.entries.find? k = some e ∧ elapsed e.touchedAt now < c.expiry.ttl := by
  simp [live?, Option.filter_eq_some_iff, isLive]

omit [DecidableEq κ] in
/-- Which entries are live is told by the expiry of the cache. -/
theorem isLive_congr {c d : Cache κ ν} (hexpiry : c.expiry = d.expiry) : c.isLive = d.isLive := by
  funext t e
  rw [isLive, isLive, hexpiry]

omit [DecidableEq κ] in
theorem read_congr {c d : Cache κ ν} (hexpiry : c.expiry = d.expiry) : c.read = d.read := by
  funext t e
  rw [read, read, hexpiry]

theorem live?_congr {c d : Cache κ ν} (hexpiry : c.expiry = d.expiry)
    (h : c.entries.find? k = d.entries.find? j) : c.live? k now = d.live? j now := by
  rw [live?, live?, h, isLive_congr hexpiry]

/-! ## Lookups -/

theorem get_fst : (c.get k now).1 = (c.live? k now).map (·.value) := by
  rw [get, live?]
  cases c.entries.find? k with
  | none => rfl
  | some e => by_cases h : c.isLive now e <;> simp [h]

theorem find?_touch {e : CacheEntry ν} (h : c.entries.find? k = some e) :
    (c.touch k e now).entries.find? j =
      if j = k then some (c.read now e) else c.entries.find? j := by
  rw [touch, read]
  by_cases hr : c.expiry.refreshes <;> by_cases hj : j = k <;> simp [hr, hj, h]

theorem find?_get :
    (c.get k now).2.entries.find? j =
      if j = k then (c.live? k now).map (c.read now) else c.entries.find? j := by
  rw [get, live?]
  cases h : c.entries.find? k with
  | none => by_cases hj : j = k <;> simp [hj, h]
  | some e => by_cases hl : c.isLive now e <;> simp [hl, find?_touch, h, Option.filter_some]

/-- A lookup adds no entry. -/
theorem size_get_le : (c.get k now).2.entries.size ≤ c.entries.size := by
  refine Table.size_le_of_keys fun j hj => ?_
  obtain ⟨e, he⟩ := Table.mem_keys.1 hj
  rw [find?_get] at he
  split_ifs at he with hjk
  · obtain ⟨e', he', -⟩ := Option.map_eq_some_iff.1 he
    exact Table.mem_keys.2 ⟨e', hjk ▸ ((live?_eq_some_iff ..).1 he').1⟩
  · exact Table.mem_keys.2 ⟨e, he⟩

@[simp] theorem expiry_touch (e : CacheEntry ν) : (c.touch k e now).expiry = c.expiry := by
  rw [touch]
  split_ifs <;> rfl

@[simp] theorem capacity_touch (e : CacheEntry ν) : (c.touch k e now).capacity = c.capacity := by
  rw [touch]
  split_ifs <;> rfl

@[simp] theorem expiry_get : (c.get k now).2.expiry = c.expiry := by
  rw [get]
  cases c.entries.find? k with
  | none => rfl
  | some e => by_cases hl : c.isLive now e <;> simp [hl]

@[simp] theorem capacity_get : (c.get k now).2.capacity = c.capacity := by
  rw [get]
  cases c.entries.find? k with
  | none => rfl
  | some e => by_cases hl : c.isLive now e <;> simp [hl]

@[simp] theorem find?_invalidate :
    (c.invalidate k).entries.find? j = if j = k then none else c.entries.find? j :=
  Table.find?_erase c.entries k j

/-! ## Writes -/

@[simp] theorem expiry_makeRoom : (c.makeRoom now).expiry = c.expiry := by
  simp only [makeRoom]
  split_ifs
  · rfl
  · split <;> rfl

@[simp] theorem capacity_makeRoom : (c.makeRoom now).capacity = c.capacity := by
  simp only [makeRoom]
  split_ifs
  · rfl
  · split <;> rfl

@[simp] theorem expiry_insert : (c.insert k v now).expiry = c.expiry := by
  rw [insert]
  split_ifs <;> simp

@[simp] theorem capacity_insert : (c.insert k v now).capacity = c.capacity := by
  rw [insert]
  split_ifs <;> simp

/-- Making room brings no entry back. -/
theorem find?_of_find?_makeRoom {e : CacheEntry ν}
    (h : (c.makeRoom now).entries.find? j = some e) : c.entries.find? j = some e := by
  have hretain : ∀ {e}, (c.entries.retain (c.isLive now)).find? j = some e →
      c.entries.find? j = some e := by
    intro e he
    rw [Table.find?_retain, Option.filter_eq_some_iff] at he
    exact he.1
  simp only [makeRoom] at h
  split_ifs at h
  · exact hretain h
  · split at h
    · rw [Table.find?_erase] at h
      split_ifs at h
      exact hretain h
    · exact hretain h

theorem find?_insert : (c.insert k v now).entries.find? k = some ⟨v, now⟩ := by
  simp [insert]

theorem find?_of_find?_insert {e : CacheEntry ν} (hj : j ≠ k)
    (h : (c.insert k v now).entries.find? j = some e) : c.entries.find? j = some e := by
  rw [insert, Table.find?_put, if_neg hj] at h
  split_ifs at h
  · exact h
  · exact c.find?_of_find?_makeRoom j now h

/-- Has the cache room for a key, because it has an entry of the key or is not full? -/
def HasRoom : Prop := k ∈ c.entries.keys ∨ c.entries.size < c.capacity

/-- There is room for each of at most as many keys as the capacity, if the cache has no others. -/
theorem hasRoom_of_card {seen : Finset κ} (hkeys : ∀ j ∈ c.entries.keys, j ∈ seen) (hk : k ∈ seen)
    (hcard : seen.card ≤ c.capacity) : c.HasRoom k := by
  by_cases hmem : k ∈ c.entries.keys
  · exact Or.inl hmem
  · refine Or.inr ?_
    have hsub : c.entries.keys.toFinset ⊂ seen := by
      refine Finset.ssubset_iff.2 ⟨k, by simpa using hmem, fun j hj => ?_⟩
      rcases Finset.mem_insert.1 hj with rfl | hj
      · exact hk
      · exact hkeys j (List.mem_toFinset.1 hj)
    have hlt := Finset.card_lt_card hsub
    rw [List.toFinset_card_of_nodup c.entries.nodup_keys, Table.length_keys] at hlt
    exact hlt.trans_le hcard

theorem insert_of_room (hroom : c.HasRoom k) :
    c.insert k v now = { c with entries := c.entries.put k ⟨v, now⟩ } := by
  have h : (c.entries.has k || decide (c.entries.size < c.capacity)) = true := by
    rw [Bool.or_eq_true, Table.has_iff, decide_eq_true_eq]
    exact hroom
  rw [insert, if_pos h]

theorem insert_of_full (hfull : ¬ c.HasRoom k) :
    c.insert k v now =
      { c.makeRoom now with entries := (c.makeRoom now).entries.put k ⟨v, now⟩ } := by
  have h : ¬ (c.entries.has k || decide (c.entries.size < c.capacity)) = true := by
    rw [Bool.or_eq_true, Table.has_iff, decide_eq_true_eq]
    exact hfull
  rw [insert, if_neg h]

theorem find?_insert_of_room (hroom : c.HasRoom k) :
    (c.insert k v now).entries.find? j =
      if j = k then some ⟨v, now⟩ else c.entries.find? j := by
  rw [c.insert_of_room k v now hroom, Table.find?_put]

/-! ## Lookups that may write -/

theorem obtain_eq (initial : Unit → ν) :
    c.obtain k initial now =
      match (c.get k now).1 with
      | some v => ((v, false), (c.get k now).2)
      | none => ((initial (), true), c.insert k (initial ()) now) := by
  rw [obtain, get]
  cases c.entries.find? k with
  | none => rfl
  | some e => by_cases hl : c.isLive now e <;> simp [hl]

@[simp] theorem find?_adjust (f : ν → ν) :
    (c.adjust k f).entries.find? j =
      if j = k then (c.entries.find? k).map fun e => { e with value := f e.value }
      else c.entries.find? j := by
  rw [adjust]
  cases h : c.entries.find? k with
  | none => by_cases hj : j = k <;> simp [hj, h]
  | some e => simp

@[simp] theorem expiry_adjust (f : ν → ν) : (c.adjust k f).expiry = c.expiry := by
  rw [adjust]
  split <;> rfl

@[simp] theorem capacity_adjust (f : ν → ν) : (c.adjust k f).capacity = c.capacity := by
  rw [adjust]
  split <;> rfl

end Footfall.Cache
