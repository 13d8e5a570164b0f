import Footfall.Proofs.Cache.Operations

/-!
# Reading through a cache

Reading a key through a cache either finds it, or asks the loader (`Cache.getOrCompute_of_missed`).
A read fails only because the loader just did, and then the key has no entry
(`Cache.of_getOrCompute_error`). In a cache whose reads do not start the time of an entry anew, a
value that is found was written less than the time to live ago, and finding it changes nothing
(`Cache.of_getOrCompute_found`); the entries after a read are older ones and the one that was loaded
(`Cache.find?_of_find?_getOrCompute`).
-/

namespace Footfall.Cache

variable {κ ν ε : Type} [DecidableEq κ] {c : Cache κ ν} {k j : κ} {now : Moment}
  {load : Unit → Except ε ν}

theorem getOrCompute_of_found {v : ν} (h : (c.get k now).1 = some v) :
    c.getOrCompute k load now = (.ok (v, false), (c.get k now).2) := by
  rw [getOrCompute]
  rcases hget : c.get k now with ⟨found, d⟩
  obtain rfl : found = some v := by rwa [hget] at h
  rfl

theorem getOrCompute_of_loaded {v : ν} (h : (c.get k now).1 = none) (hload : load () = .ok v) :
    c.getOrCompute k load now = (.ok (v, true), (c.get k now).2.insert k v now) := by
  rw [getOrCompute]
  rcases hget : c.get k now with ⟨found, d⟩
  obtain rfl : found = none := by rwa [hget] at h
  simp only [hload]

theorem getOrCompute_of_failed {f : ε} (h : (c.get k now).1 = none) (hload : load () = .error f) :
    c.getOrCompute k load now = (.error f, (c.get k now).2) := by
  rw [getOrCompute]
  rcases hget : c.get k now with ⟨found, d⟩
  obtain rfl : found = none := by rwa [hget] at h
  simp only [hload]

/-- **What reading through a cache can do.** It finds a live entry of the key, loads a value and
writes it, or fails as the loader does. -/
theorem getOrCompute_cases (c : Cache κ ν) (k : κ) (load : Unit → Except ε ν) (now : Moment) :
    (∃ e, c.live? k now = some e ∧
      c.getOrCompute k load now = (.ok (e.value, false), (c.get k now).2)) ∨
    (∃ v, c.live? k now = none ∧ load () = .ok v ∧
      c.getOrCompute k load now = (.ok (v, true), (c.get k now).2.insert k v now)) ∨
    (∃ f, c.live? k now = none ∧ load () = .error f ∧
      c.getOrCompute k load now = (.error f, (c.get k now).2)) := by
  have hfst := c.get_fst k now
  cases hlive : c.live? k now with
  | some e =>
    rw [hlive, Option.map_some] at hfst
    exact .inl ⟨e, rfl, getOrCompute_of_found hfst⟩
  | none =>
    rw [hlive, Option.map_none] at hfst
    cases hload : load () with
    | ok v => exact .inr (.inl ⟨v, rfl, rfl, getOrCompute_of_loaded hfst hload⟩)
    | error f => exact .inr (.inr ⟨f, rfl, rfl, getOrCompute_of_failed hfst hload⟩)

@[simp] theorem expiry_getOrCompute : (c.getOrCompute k load now).2.expiry = c.expiry := by
  rcases c.getOrCompute_cases k load now with ⟨e, -, h⟩ | ⟨v, -, -, h⟩ | ⟨f, -, -, h⟩ <;> simp [h]

/-- A key that is not found is loaded. -/
theorem getOrCompute_of_missed (h : (c.get k now).1 = none) :
    (c.getOrCompute k load now).1 = (load ()).map fun v => (v, true) := by
  cases hload : load () with
  | ok v => rw [getOrCompute_of_loaded h hload, Except.map]
  | error f => rw [getOrCompute_of_failed h hload, Except.map]

/-- A read fails only because the key is not found and the loader just failed, and then the key has
no entry. -/
theorem of_getOrCompute_error {f : ε} (h : (c.getOrCompute k load now).1 = .error f) :
    (c.get k now).1 = none ∧ load () = .error f ∧
      (c.getOrCompute k load now).2.entries.find? k = none := by
  rcases c.getOrCompute_cases k load now with ⟨e, -, heq⟩ | ⟨v, -, -, heq⟩ | ⟨g, hlive, hload, heq⟩
  · rw [heq] at h
    cases h
  · rw [heq] at h
    cases h
  · rw [heq] at h
    obtain rfl : g = f := Except.error.inj h
    refine ⟨by rw [get_fst, hlive, Option.map_none], hload, ?_⟩
    rw [heq, find?_get, if_pos rfl, hlive, Option.map_none]

/-- A value that is reported as loaded is what the loader gave, after a lookup that found none. -/
theorem of_getOrCompute_loaded {v : ν} (h : (c.getOrCompute k load now).1 = .ok (v, true)) :
    (c.get k now).1 = none ∧ load () = .ok v := by
  rcases c.getOrCompute_cases k load now with ⟨e, -, heq⟩ | ⟨u, hlive, hload, heq⟩ | ⟨f, -, -, heq⟩
  · rw [heq] at h
    simp at h
  · rw [heq] at h
    obtain rfl : u = v := by simpa using h
    exact ⟨by rw [get_fst, hlive, Option.map_none], hload⟩
  · rw [heq] at h
    cases h

/-- Reading one key brings no entry of another. -/
theorem find?_getOrCompute_of_ne (hj : j ≠ k) (h : c.entries.find? j = none) :
    (c.getOrCompute k load now).2.entries.find? j = none := by
  have hget : (c.get k now).2.entries.find? j = none := by rwa [find?_get, if_neg hj]
  rcases c.getOrCompute_cases k load now with ⟨e, -, heq⟩ | ⟨v, -, -, heq⟩ | ⟨f, -, -, heq⟩ <;>
    rw [heq]
  · exact hget
  · refine Option.eq_none_iff_forall_ne_some.2 fun e he => ?_
    rw [find?_of_find?_insert _ _ _ _ _ hj he] at hget
    cases hget
  · exact hget

section AfterWrite

variable (hwrite : c.expiry.refreshes = false)

include hwrite

theorem touch_eq_self (e : CacheEntry ν) : c.touch k e now = c := by simp [touch, hwrite]

/-- A lookup brings no entry and makes none younger. -/
theorem find?_of_find?_get {e : CacheEntry ν} (h : (c.get k now).2.entries.find? j = some e) :
    c.entries.find? j = some e := by
  rw [find?_get] at h
  split_ifs at h with hj
  · obtain ⟨e', hlive, rfl⟩ := Option.map_eq_some_iff.1 h
    rw [hj, ((c.live?_eq_some_iff k now).1 hlive).1, read, hwrite]
    rfl
  · exact h

/-- A value that is found was written less than the time to live ago, and finding it changes
nothing. -/
theorem of_getOrCompute_found {v : ν} (h : (c.getOrCompute k load now).1 = .ok (v, false)) :
    (∃ e, c.entries.find? k = some e ∧ elapsed e.touchedAt now < c.expiry.ttl ∧ e.value = v) ∧
      (c.getOrCompute k load now).2 = c := by
  rcases c.getOrCompute_cases k load now with ⟨e, hlive, heq⟩ | ⟨u, -, -, heq⟩ | ⟨f, -, -, heq⟩
  · rw [heq] at h ⊢
    obtain ⟨hfind, htime⟩ := (c.live?_eq_some_iff k now).1 hlive
    refine ⟨⟨e, hfind, htime, by simpa using h⟩, ?_⟩
    have hislive : c.isLive now e = true := by simpa [isLive] using htime
    simp [get, hfind, hislive, touch_eq_self hwrite]
  · rw [heq] at h
    simp at h
  · rw [heq] at h
    cases h

/-- The entries after a read are older ones, and that of a value which was loaded. -/
theorem find?_of_find?_getOrCompute {e : CacheEntry ν}
    (h : (c.getOrCompute k load now).2.entries.find? j = some e) :
    c.entries.find? j = some e ∨
      j = k ∧ e.touchedAt = now ∧ (c.getOrCompute k load now).1 = .ok (e.value, true) := by
  rcases c.getOrCompute_cases k load now with ⟨e', -, heq⟩ | ⟨v, -, -, heq⟩ | ⟨f, -, -, heq⟩ <;>
    rw [heq] at h ⊢
  · exact .inl (find?_of_find?_get hwrite h)
  · by_cases hj : j = k
    · subst hj
      obtain rfl : ⟨v, now⟩ = e := Option.some.inj ((find?_insert ..).symm.trans h)
      exact .inr ⟨rfl, rfl, rfl⟩
    · exact .inl (find?_of_find?_get hwrite (find?_of_find?_insert _ _ _ _ _ hj h))
  · exact .inl (find?_of_find?_get hwrite h)

end AfterWrite

end Footfall.Cache
