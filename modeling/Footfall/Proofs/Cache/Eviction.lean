import Mathlib.Data.Int.ConditionallyCompleteOrder
import Mathlib.Data.List.MinMax
import Mathlib.Order.ConditionallyCompleteLattice.Basic
import Footfall.Proofs.Cache.Operations

/-!
# What a write drives out

A write to a full cache removes the expired entries first, and a live one only if that is not
enough. So what is live after a write is told by what was live before it: a live entry is lost
exactly if it is the one driven out (`Cache.drivenOut?`, `Cache.live?_insert`), and that is the
first of those that were touched the longest ago (`Cache.oldest_eq`). A cache never outgrows its
capacity (`Cache.size_insert_le`).
-/

namespace Footfall.Cache

variable {κ ν : Type} [DecidableEq κ] (c : Cache κ ν) (k j : κ) (v : ν) (now : Moment)

/-- The entries that are live. -/
def liveEntries : Table κ (CacheEntry ν) := c.entries.retain (c.isLive now)

@[simp] theorem find?_liveEntries : (c.liveEntries now).find? k = c.live? k now :=
  Table.find?_retain ..

omit [DecidableEq κ] in
/-- The oldest entry is the first one that was touched the longest ago. -/
theorem oldest_eq (entries : List (κ × CacheEntry ν)) :
    oldest entries = (entries.argmin fun e => e.2.touchedAt).map (·.1) := by
  have hfold : ∀ (r : List (κ × CacheEntry ν)) e,
      r.foldl (List.argAux fun f best => f.2.touchedAt < best.2.touchedAt) (some e) =
        some (r.foldl (fun best f => if f.2.touchedAt < best.2.touchedAt then f else best) e) := by
    intro r
    induction r with
    | nil => intro e; rfl
    | cons f r ih =>
      intro e
      rw [List.foldl_cons, List.foldl_cons, ← ih]
      congr 1
      exact (apply_ite some ..).symm
  cases entries with
  | nil => rfl
  | cons e r => exact (congrArg (Option.map (·.1)) (hfold r e)).symm

omit [DecidableEq κ] in
/-- The oldest entry is one of the entries, and no other was touched before it. -/
theorem exists_of_oldest {entries : List (κ × CacheEntry ν)} {k : κ} (h : oldest entries = some k) :
    ∃ e, (k, e) ∈ entries ∧ ∀ f ∈ entries, e.touchedAt ≤ f.2.touchedAt := by
  rw [oldest_eq, Option.map_eq_some_iff] at h
  obtain ⟨⟨_, e⟩, he, rfl⟩ := h
  refine ⟨e, List.argmin_mem he, fun f hf => ?_⟩
  exact List.le_of_mem_argmin (f := fun e : κ × CacheEntry ν => e.2.touchedAt) hf he

omit [DecidableEq κ] in
theorem oldest_eq_none_iff {entries : List (κ × CacheEntry ν)} :
    oldest entries = none ↔ entries = [] := by
  rw [oldest_eq, Option.map_eq_none_iff, List.argmin_eq_none]

/-- The key whose live entry a write of a key drives out. -/
def drivenOut? : Option κ :=
  if c.live? k now = none ∧ c.capacity ≤ (c.liveEntries now).size then
    oldest (c.liveEntries now).entries
  else none

theorem entries_makeRoom (hk : c.live? k now = none) :
    (c.makeRoom now).entries =
      match c.drivenOut? k now with
      | some o => (c.liveEntries now).erase o
      | none => c.liveEntries now := by
  simp only [makeRoom, drivenOut?, hk, true_and]
  rw [show c.entries.retain (c.isLive now) = c.liveEntries now from rfl]
  by_cases hroom : (c.liveEntries now).size < c.capacity
  · rw [if_pos hroom, if_neg (Nat.not_le.2 hroom)]
  · rw [if_neg hroom, if_pos (Nat.not_lt.1 hroom)]
    cases oldest (c.liveEntries now).entries <;> rfl

/-- Making room loses no live entry but the one driven out. -/
theorem live?_makeRoom (hk : c.live? k now = none) :
    (c.makeRoom now).live? j now =
      if c.drivenOut? k now = some j then none else c.live? j now := by
  have hidem : (c.live? j now).filter (c.isLive now) = c.live? j now := by
    rw [live?, Option.filter_filter]
    simp
  rw [live?, isLive_congr (c.expiry_makeRoom now), c.entries_makeRoom k now hk]
  cases hout : c.drivenOut? k now with
  | none => simpa using hidem
  | some o =>
    rw [Table.find?_erase, find?_liveEntries]
    by_cases ho : j = o
    · simp [ho]
    · rw [if_neg ho, if_neg (by simpa using Ne.symm ho), hidem]

/-- Nothing is driven out while there is room. -/
theorem drivenOut?_of_room (hfits : c.entries.size ≤ c.capacity) (hroom : c.HasRoom k) :
    c.drivenOut? k now = none := by
  refine if_neg fun ⟨hdead, hfull⟩ => ?_
  have hle : (c.liveEntries now).size ≤ c.entries.size := Table.size_retain_le ..
  rcases hroom with hk | hsize
  · -- the entry of the key has expired, so not all entries are live
    obtain ⟨e, he⟩ := Table.mem_keys.1 hk
    rw [live?, he, Option.filter_eq_none_iff] at hdead
    have hlt : (c.liveEntries now).size < c.entries.size :=
      Table.size_retain_lt he (by simpa using hdead)
    omega
  · omega

/-- **What is live after a write.** The written entry, if the time to live is not zero, and all
others that were live before, but for the one driven out. -/
theorem live?_insert (hfits : c.entries.size ≤ c.capacity) :
    (c.insert k v now).live? j now =
      if j = k then (some ⟨v, now⟩ : Option (CacheEntry ν)).filter (c.isLive now)
      else if c.drivenOut? k now = some j then none else c.live? j now := by
  by_cases hj : j = k
  · rw [if_pos hj, hj, live?, find?_insert, isLive_congr (c.expiry_insert k v now)]
  · rw [if_neg hj]
    by_cases hroom : c.HasRoom k
    · rw [c.drivenOut?_of_room k now hfits hroom, if_neg (by simp)]
      refine live?_congr j j now (c.expiry_insert k v now) ?_
      rw [c.find?_insert_of_room k j v now hroom, if_neg hj]
    · have hk : c.live? k now = none := by
        have hfind : c.entries.find? k = none := by
          by_contra h
          exact hroom (Or.inl (Table.mem_keys.2 (Option.ne_none_iff_exists'.1 h)))
        rw [live?, hfind]
        rfl
      rw [← c.live?_makeRoom k j now hk]
      refine live?_congr j j now ?_ ?_
      · rw [expiry_insert, expiry_makeRoom]
      · rw [c.insert_of_full k v now hroom, Table.find?_put, if_neg hj]

theorem size_makeRoom_lt (hcapacity : 0 < c.capacity) (hfits : c.entries.size ≤ c.capacity) :
    (c.makeRoom now).entries.size < c.capacity := by
  have hle : (c.liveEntries now).size ≤ c.entries.size := Table.size_retain_le ..
  simp only [makeRoom]
  rw [show c.entries.retain (c.isLive now) = c.liveEntries now from rfl]
  split_ifs with hroom
  · exact hroom
  · cases hout : oldest (c.liveEntries now).entries with
    | none => rwa [Table.size, oldest_eq_none_iff.1 hout]
    | some o =>
      obtain ⟨e, he, -⟩ := exists_of_oldest hout
      have hlt : ((c.liveEntries now).erase o).size < (c.liveEntries now).size :=
        Table.size_erase_lt (List.mem_map_of_mem he)
      exact hlt.trans_le (hle.trans hfits)

/-- A cache that is not overfull is not so after a write. -/
theorem size_insert_le (hcapacity : 0 < c.capacity) (hfits : c.entries.size ≤ c.capacity) :
    (c.insert k v now).entries.size ≤ c.capacity := by
  by_cases hroom : c.HasRoom k
  · rw [c.insert_of_room k v now hroom, Table.size_put]
    split_ifs with hk
    · exact hfits
    · exact hroom.resolve_left hk
  · rw [c.insert_of_full k v now hroom, Table.size_put]
    have hlt := c.size_makeRoom_lt now hcapacity hfits
    split_ifs <;> omega

end Footfall.Cache
