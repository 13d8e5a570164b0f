import Footfall.Proofs.Cache.Eviction
import Footfall.Proofs.Cache.Recency
import Footfall.Proofs.Cache.Refinement

/-!
# What a cache holds

As long as nothing is removed on purpose, a cache for `n` entries holds exactly what was touched
recently: of the `n` keys touched last, those whose time has not run out. A write touches its key,
and so does a successful read if reads start the time anew (`Event.touched?`).

The invariant (`Holds`) says less: every entry is of the last touch of its key, and a key has an
entry if fewer than `n` keys were touched since and its time has not run out. That a live entry is
of one of the `n` last keys follows by counting, since these are all live and there is no room for
more (`Holds.isSome_live?_iff`). A touch keeps the invariant if it loses no entry that has to stay
(`Holds.touch`); the one that a write drives out does not have to, since it is older than all other
live ones (`Holds.card_since_of_drivenOut?`).

`live_keys_eq_recent` is what follows for every run of lookups and writes.
-/

namespace Footfall.Cache

open Recency

/-- The key that an event touches, if it touches one. -/
def Event.touched? {κ ν : Type} (refreshes : Bool) : Event κ ν → Option κ
  | .looked k (some _) => if refreshes then some k else none
  | .looked _ none => none
  | .wrote k _ => some k
  | .forgot _ => none
  | .cleared => none

/-- The touches of a history with their moments, the latest first. -/
def touches {κ ν : Type} (refreshes : Bool) (past : History κ ν) : List (Moment × κ) :=
  (past.filterMap fun e => (e.2.touched? refreshes).map fun k => (e.1, k)).reverse

/-- The key that an operation looks up or writes. -/
def Op.key? {κ ν : Type} : Op κ ν → Option κ
  | .get k => some k
  | .insert k _ => some k
  | .lookUp k => some k
  | .loaded k _ => some k
  | .getOrInsertWith k _ => some k
  | .invalidate _ => none
  | .clear => none

section Touches

variable {κ ν : Type} {refreshes : Bool} {past newer : History κ ν} {t : Moment} {k : κ}

theorem touches_append :
    touches refreshes (past ++ newer) = touches refreshes newer ++ touches refreshes past := by
  simp [touches]

theorem mem_touches :
    (t, k) ∈ touches refreshes past ↔ ∃ x, (t, x) ∈ past ∧ x.touched? refreshes = some k := by
  simp only [touches, List.mem_reverse, List.mem_filterMap, Option.map_eq_some_iff,
    Prod.mk.injEq]
  constructor
  · rintro ⟨⟨s, x⟩, hx, j, hj, rfl, rfl⟩
    exact ⟨x, hx, hj⟩
  · rintro ⟨x, hx, hk⟩
    exact ⟨(t, x), hx, k, hk, rfl, rfl⟩

end Touches

variable {κ ν : Type} [DecidableEq κ] {c d : Cache κ ν} {ts : List (Moment × κ)}
  {now later t : Moment} {j k : κ}

/-! ## The invariant -/

/-- **The cache holds what was touched recently.** It is not overfull, every entry is of the last
touch of its key, and a key has an entry if its time has not run out and too few keys were touched
since to fill the cache. -/
structure Holds (ts : List (Moment × κ)) (now : Moment) (c : Cache κ ν) : Prop where
  positive : 0 < c.capacity
  fits : c.entries.size ≤ c.capacity
  touched : ∀ {k e}, c.entries.find? k = some e → lastTouched? ts k = some e.touchedAt
  kept : ∀ {k t}, lastTouched? ts k = some t → elapsed t now < c.expiry.ttl →
    (since ts k).card < c.capacity → k ∈ c.entries.keys

namespace Holds

theorem empty (expiry : Expiry) (capacity : ℕ) (now : Moment) :
    Holds [] now (Cache.empty expiry capacity : Cache κ ν) where
  positive := Nat.lt_of_lt_of_le Nat.one_pos (Nat.le_max_right ..)
  fits := Nat.zero_le _
  touched h := by cases h
  kept h := by cases h

theorem mono (h : Holds ts now c) (hle : now ≤ later) : Holds ts later c where
  positive := h.positive
  fits := h.fits
  touched := h.touched
  kept hk hlive hfew := h.kept hk ((elapsed_le_right hle).trans_lt hlive) hfew

theorem lastTouched?_of_live? (h : Holds ts now c) {e : CacheEntry ν}
    (he : c.live? k now = some e) :
    lastTouched? ts k = some e.touchedAt ∧ elapsed e.touchedAt now < c.expiry.ttl := by
  rw [live?_eq_some_iff] at he
  exact ⟨h.touched he.1, he.2⟩

/-- A key that has to stay is live. -/
theorem isSome_live? (h : Holds ts now c) (hk : lastTouched? ts k = some t)
    (hlive : elapsed t now < c.expiry.ttl) (hfew : (since ts k).card < c.capacity) :
    (c.live? k now).isSome = true := by
  obtain ⟨e, he⟩ := Table.mem_keys.1 (h.kept hk hlive hfew)
  have htouched : e.touchedAt = t := Option.some.inj ((h.touched he).symm.trans hk)
  rw [(live?_eq_some_iff ..).2 ⟨he, htouched ▸ hlive⟩]
  rfl

/-- A live entry is of one of the last keys: these are live as well, and there is no room for
more. -/
theorem card_since_lt (h : Holds ts now c) (hts : Spaced ts)
    (hlive : (c.live? k now).isSome = true) : (since ts k).card < c.capacity := by
  by_contra hmany
  obtain ⟨e, he⟩ := Option.isSome_iff_exists.1 hlive
  obtain ⟨hk, hfresh⟩ := h.lastTouched?_of_live? he
  have hnotin : k ∉ (recency ts).take c.capacity := fun hin => hmany (mem_take_recency_iff.1 hin).2
  -- each of the last keys has an entry
  have hentries : ∀ j ∈ (recency ts).take c.capacity, j ∈ c.entries.keys := by
    intro j hj
    obtain ⟨hjmem, hjfew⟩ := mem_take_recency_iff.1 hj
    obtain ⟨s, hs⟩ := mem_recency.1 hjmem
    have hle : e.touchedAt ≤ s := by
      by_contra hlt
      have hsub : since ts k ⊆ since ts j := hts.since_subset_since hs hk (not_le.1 hlt)
      exact hmany ((Finset.card_le_card hsub).trans_lt hjfew)
    exact h.kept hs ((elapsed_le_left hle).trans_lt hfresh) hjfew
  have hlength : ((recency ts).take c.capacity).length = c.capacity := by
    have hle : (since ts k).card ≤ (recency ts).length := by
      rw [← List.toFinset_card_of_nodup (nodup_recency ts)]
      exact Finset.card_le_card since_subset
    rw [List.length_take]
    omega
  have hnodup : (k :: (recency ts).take c.capacity).Nodup :=
    List.nodup_cons.2 ⟨hnotin, (nodup_recency ts).sublist (List.take_sublist _ _)⟩
  have hsub : k :: (recency ts).take c.capacity ⊆ c.entries.keys :=
    List.cons_subset.2 ⟨Table.mem_keys.2 ⟨e, ((live?_eq_some_iff ..).1 he).1⟩, hentries⟩
  have hcount := (hnodup.subperm hsub).length_le
  rw [List.length_cons, hlength, Table.length_keys] at hcount
  have hfits := h.fits
  omega

/-- **What is live.** A key has a live entry exactly if it is among the last ones and its time has
not run out. -/
theorem isSome_live?_iff (h : Holds ts now c) (hts : Spaced ts) :
    (c.live? k now).isSome = true ↔ k ∈ (recency ts).take c.capacity ∧
      ∃ t, lastTouched? ts k = some t ∧ elapsed t now < c.expiry.ttl := by
  rw [mem_take_recency_iff]
  constructor
  · intro hlive
    obtain ⟨e, he⟩ := Option.isSome_iff_exists.1 hlive
    have hk := h.lastTouched?_of_live? he
    exact ⟨⟨mem_recency.2 ⟨_, hk.1⟩, h.card_since_lt hts hlive⟩, _, hk⟩
  · rintro ⟨⟨-, hfew⟩, t, hk, hfresh⟩
    exact h.isSome_live? hk hfresh hfew

/-! ## Touching a key -/

/-- Touching a key keeps the invariant, if its entry is put and no other one is lost that has to
stay. -/
theorem touch (h : Holds ts now c) (hexpiry : d.expiry = c.expiry)
    (hcapacity : d.capacity = c.capacity) (hfits : d.entries.size ≤ c.capacity)
    (hk : ∃ e, d.entries.find? k = some e ∧ e.touchedAt = now)
    (hother : ∀ j ≠ k, ∀ e, d.entries.find? j = some e → c.entries.find? j = some e)
    (hstay : ∀ j ≠ k, (c.live? j now).isSome = true →
      (Insert.insert k (since ts j)).card < c.capacity → j ∈ d.entries.keys) :
    Holds ((now, k) :: ts) now d where
  positive := hcapacity ▸ h.positive
  fits := hcapacity ▸ hfits
  touched {j e} he := by
    rw [lastTouched?_cons]
    by_cases hj : j = k
    · obtain ⟨e', he', hnow⟩ := hk
      rw [hj, he'] at he
      rw [if_pos hj, ← Option.some.inj he, hnow]
    · rw [if_neg hj]
      exact h.touched (hother j hj e he)
  kept {j t} ht hfresh hfew := by
    rw [lastTouched?_cons] at ht
    rw [since_cons] at hfew
    by_cases hj : j = k
    · obtain ⟨e, he, -⟩ := hk
      exact Table.mem_keys.2 ⟨e, hj ▸ he⟩
    · rw [if_neg hj] at ht hfew
      rw [hcapacity] at hfew
      rw [hexpiry] at hfresh
      have hfew' : (since ts j).card < c.capacity :=
        (Finset.card_le_card (Finset.subset_insert k _)).trans_lt hfew
      exact hstay j hj (h.isSome_live? ht hfresh hfew') hfew

/-! ## Events -/

/-- A lookup that touches nothing keeps the invariant, since it loses only what has expired. -/
theorem looked_untouched (h : Holds ts now c)
    (huntouched : (c.live? k now).isSome = true → c.expiry.refreshes = false) :
    Holds ts now (c.get k now).2 where
  positive := (capacity_get c k now).symm ▸ h.positive
  fits := (capacity_get c k now).symm ▸ (size_get_le c k now).trans h.fits
  touched {j e} he := by
    rw [find?_get] at he
    split_ifs at he with hj
    · obtain ⟨e', he', rfl⟩ := Option.map_eq_some_iff.1 he
      have hread : c.read now e' = e' := by
        rw [read, huntouched (Option.isSome_of_eq_some he')]
        rfl
      rw [hj, hread]
      exact (h.lastTouched?_of_live? he').1
    · exact h.touched he
  kept {j t} ht hfresh hfew := by
    rw [expiry_get] at hfresh
    rw [capacity_get] at hfew
    rw [Table.mem_keys, find?_get]
    split_ifs with hj
    · obtain ⟨e, he⟩ := Option.isSome_iff_exists.1 (h.isSome_live? ht hfresh hfew)
      exact ⟨c.read now e, by rw [← hj, he]; rfl⟩
    · exact Table.mem_keys.1 (h.kept ht hfresh hfew)

/-- A lookup that finds a live entry and starts its time anew keeps the invariant. -/
theorem looked_touched (h : Holds ts now c) (hlive : (c.live? k now).isSome = true)
    (hrefreshes : c.expiry.refreshes = true) : Holds ((now, k) :: ts) now (c.get k now).2 := by
  have hother : ∀ j ≠ k, (c.get k now).2.entries.find? j = c.entries.find? j := by
    intro j hj
    rw [find?_get, if_neg hj]
  obtain ⟨e, he⟩ := Option.isSome_iff_exists.1 hlive
  refine h.touch (expiry_get ..) (capacity_get ..) ((size_get_le c k now).trans h.fits)
    ⟨c.read now e, ?_, ?_⟩ (fun j hj e he => hother j hj ▸ he) fun j hj hjlive _ => ?_
  · rw [find?_get, if_pos rfl, he]
    rfl
  · rw [read, if_pos hrefreshes]
  · obtain ⟨f, hf⟩ := Option.isSome_iff_exists.1 hjlive
    exact Table.mem_keys.2 ⟨f, (hother j hj).trans ((live?_eq_some_iff ..).1 hf).1⟩

theorem looked (h : Holds ts now c) (k : κ) :
    Holds (touches c.expiry.refreshes [(now, .looked k (c.get k now).1)] ++ ts) now
      (c.get k now).2 := by
  rw [get_fst]
  cases hlive : c.live? k now with
  | none => exact h.looked_untouched (by simp [hlive])
  | some e =>
    cases hrefreshes : c.expiry.refreshes with
    | false => exact h.looked_untouched fun _ => hrefreshes
    | true => exact h.looked_touched (Option.isSome_of_eq_some hlive) hrefreshes

/-- What a write drives out does not have to stay: all other live entries were touched since, and
they and the written one fill the cache. -/
theorem card_since_of_drivenOut? (h : Holds ts now c) (hts : Spaced ts)
    (hout : c.drivenOut? k now = some j) : c.capacity ≤ (Insert.insert k (since ts j)).card := by
  unfold drivenOut? at hout
  split_ifs at hout with hfull
  obtain ⟨hk, hsize⟩ := hfull
  obtain ⟨e, he, hmin⟩ := exists_of_oldest hout
  have hlive : ∀ {i f}, (i, f) ∈ (c.liveEntries now).entries → c.live? i now = some f := by
    intro i f hf
    rwa [← Table.find?_eq_some_iff, find?_liveEntries] at hf
  have hj := h.lastTouched?_of_live? (hlive he)
  -- the other live entries
  have hsub : (c.liveEntries now).keys.toFinset.erase j ⊆ since ts j := by
    intro i hi
    obtain ⟨hij, hi⟩ := Finset.mem_erase.1 hi
    obtain ⟨⟨_, f⟩, hf, rfl⟩ := List.mem_map.1 (List.mem_toFinset.1 hi)
    have hi := h.lastTouched?_of_live? (hlive hf)
    refine (hts.mem_since_iff hi.1 hj.1).2 (lt_of_le_of_ne (hmin _ hf) fun heq => ?_)
    exact hij (hts.eq_of_lastTouched? hi.1 (heq ▸ hj.1))
  have hknotin : k ∉ (c.liveEntries now).keys.toFinset.erase j := by
    intro hmem
    obtain ⟨e', he'⟩ := Table.mem_keys.1 (List.mem_toFinset.1 (Finset.mem_of_mem_erase hmem))
    rw [find?_liveEntries, hk] at he'
    cases he'
  calc c.capacity ≤ (c.liveEntries now).keys.toFinset.card := by
        rwa [List.toFinset_card_of_nodup (Table.nodup_keys _), Table.length_keys]
    _ = (Insert.insert k ((c.liveEntries now).keys.toFinset.erase j)).card := by
        rw [Finset.card_insert_of_notMem hknotin, Finset.card_erase_add_one]
        exact List.mem_toFinset.2 (List.mem_map_of_mem he)
    _ ≤ (Insert.insert k (since ts j)).card :=
        Finset.card_le_card (Finset.insert_subset_insert k hsub)

theorem wrote (h : Holds ts now c) (hts : Spaced ts) (k : κ) (v : ν) :
    Holds ((now, k) :: ts) now (c.insert k v now) := by
  refine h.touch (expiry_insert ..) (capacity_insert ..)
    (size_insert_le c k v now h.positive h.fits) ⟨⟨v, now⟩, find?_insert .., rfl⟩
    (fun j hj e he => find?_of_find?_insert c k j v now hj he) fun j hj hlive hfew => ?_
  have hnotout : c.drivenOut? k now ≠ some j := fun hout =>
    absurd (h.card_since_of_drivenOut? hts hout) (Nat.not_le.2 hfew)
  obtain ⟨e, he⟩ := Option.isSome_iff_exists.1 hlive
  have hafter : (c.insert k v now).live? j now = some e := by
    rw [live?_insert c k j v now h.fits, if_neg hj, if_neg hnotout, he]
  exact Table.mem_keys.2 ⟨e, ((live?_eq_some_iff ..).1 hafter).1⟩

/-- An operation on a key keeps the invariant. -/
theorem step (h : Holds ts now c) (hts : Spaced ts) {op : Op κ ν}
    (hkeyed : op.key?.isSome = true) :
    Holds (touches c.expiry.refreshes ((c.step now op).1.map fun e => (now, e)) ++ ts) now
      (c.step now op).2 := by
  cases op with
  | get k => exact h.looked k
  | insert k v => exact h.wrote hts k v
  | lookUp k => exact h.looked k
  | loaded k result =>
    cases result with
    | none => exact h
    | some v => exact h.wrote hts k v
  | getOrInsertWith k initial =>
    have hlooked := h.looked k
    rw [Cache.step, obtain_eq]
    cases hfound : (c.get k now).1 with
    | some v =>
      rw [hfound] at hlooked
      exact hlooked
    | none => exact h.wrote hts k initial
  | invalidate k => cases hkeyed
  | clear => cases hkeyed

end Holds

/-! ## Runs -/

section Runs

variable {ops : List (Moment × Op κ ν)} {refreshes : Bool}

omit [DecidableEq κ] in
theorem Event.eq_of_touched?_looked {found : Option ν}
    (h : (looked j found).touched? refreshes = some k) : j = k := by
  cases found with
  | none => cases h
  | some v =>
    unfold touched? at h
    split_ifs at h
    exact Option.some.inj h

/-- An operation touches no other key than its own. -/
theorem key?_of_touched? {op : Op κ ν} {x : Event κ ν} (hx : x ∈ (c.step now op).1)
    (hk : x.touched? refreshes = some k) : op.key? = some k := by
  cases op with
  | get j =>
    obtain rfl := List.mem_singleton.1 hx
    exact congrArg some (Event.eq_of_touched?_looked hk)
  | insert j v =>
    obtain rfl := List.mem_singleton.1 hx
    exact hk
  | lookUp j =>
    obtain rfl := List.mem_singleton.1 hx
    exact congrArg some (Event.eq_of_touched?_looked hk)
  | loaded j result =>
    cases result with
    | none => cases hx
    | some v =>
      obtain rfl := List.mem_singleton.1 hx
      exact hk
  | getOrInsertWith j initial =>
    rw [step, obtain_eq] at hx
    cases hfound : (c.get j now).1 with
    | some v =>
      rw [hfound] at hx
      obtain rfl := List.mem_singleton.1 hx
      exact congrArg some (Event.eq_of_touched?_looked hk)
    | none =>
      rw [hfound] at hx
      rcases List.mem_pair.1 hx with rfl | rfl
      · cases hk
      · exact hk
  | invalidate j =>
    obtain rfl := List.mem_singleton.1 hx
    cases hk
  | clear =>
    obtain rfl := List.mem_singleton.1 hx
    cases hk

theorem exists_of_mem_touches (h : (t, k) ∈ touches refreshes (c.trace ops)) :
    ∃ op ∈ ops, op.1 = t ∧ op.2.key? = some k := by
  induction ops generalizing c with
  | nil => simp [trace, touches] at h
  | cons op r ih =>
    obtain ⟨x, hx, hk⟩ := mem_touches.1 h
    rcases List.mem_append.1 hx with hx | hx
    · obtain ⟨y, hy, heq⟩ := List.mem_map.1 hx
      obtain ⟨rfl, rfl⟩ := Prod.mk.inj heq
      exact ⟨op, by simp, rfl, key?_of_touched? hy hk⟩
    · obtain ⟨op', hop', h'⟩ := ih (mem_touches.2 ⟨x, hx, hk⟩)
      exact ⟨op', by simp [hop'], h'⟩

/-- Operations at different moments touch keys at different moments, and so do those that share a
moment if they are on one key. -/
theorem spaced_touches
    (hapart : ops.Pairwise fun a b => a.1 < b.1 ∨ a.1 = b.1 ∧ a.2.key? = b.2.key?) :
    Spaced (touches refreshes (c.trace ops)) := by
  induction ops generalizing c with
  | nil => exact List.Pairwise.nil
  | cons op r ih =>
    obtain ⟨hhead, hrest⟩ := List.pairwise_cons.1 hapart
    -- the touches of the first operation
    have hstep : ∀ x ∈ touches refreshes ((c.step op.1 op.2).1.map fun e => (op.1, e)),
        x.1 = op.1 ∧ op.2.key? = some x.2 := by
      rintro ⟨t, k⟩ hx
      obtain ⟨x, hx, hk⟩ := mem_touches.1 hx
      obtain ⟨y, hy, heq⟩ := List.mem_map.1 hx
      obtain ⟨rfl, rfl⟩ := Prod.mk.inj heq
      exact ⟨rfl, key?_of_touched? hy hk⟩
    change Spaced (touches refreshes (_ ++ _))
    rw [touches_append]
    refine List.pairwise_append.2 ⟨ih hrest, ?_, fun a ha b hb => ?_⟩
    · refine List.pairwise_of_forall_mem_list fun a ha b hb => Or.inr ?_
      have hkeys := (hstep b hb).2.symm.trans (hstep a ha).2
      exact Prod.ext ((hstep b hb).1.trans (hstep a ha).1.symm) (Option.some.inj hkeys)
    · obtain ⟨op', hop', hmoment, hkey⟩ := exists_of_mem_touches ha
      obtain ⟨hmoment', hkey'⟩ := hstep b hb
      rw [hmoment', ← hmoment]
      rcases hhead op' hop' with hlt | ⟨heq, hkeys⟩
      · exact Or.inl hlt
      · right
        rw [hkey, hkey'] at hkeys
        exact Prod.ext (hmoment'.trans (heq.trans hmoment)) (Option.some.inj hkeys)

theorem Holds.after (h : ∀ m ∈ ops.map (·.1) ++ [now], Holds ts m c) (hops : InOrder ops now)
    (hkeyed : ∀ op ∈ ops, op.2.key?.isSome = true)
    (hts : Spaced (touches c.expiry.refreshes (c.trace ops) ++ ts)) :
    Holds (touches c.expiry.refreshes (c.trace ops) ++ ts) now (c.after ops) := by
  induction ops generalizing ts c with
  | nil => simpa [trace, touches, Cache.after] using h
  | cons op r ih =>
    obtain ⟨t, op⟩ := op
    rw [InOrder, List.map_cons, List.cons_append, List.pairwise_cons] at hops
    rw [trace, touches_append, List.append_assoc] at hts ⊢
    have hts' : Spaced ts :=
      hts.sublist ((List.sublist_append_right _ _).trans (List.sublist_append_right _ _))
    have hstep := (h t (by simp)).step hts' (hkeyed _ List.mem_cons_self)
    have hexpiry : (c.step t op).2.expiry = c.expiry := expiry_step op
    have hrest := ih (c := (c.step t op).2) (fun m hm => hstep.mono (hops.1 m hm)) hops.2
      fun op' hop' => hkeyed op' (List.mem_cons_of_mem _ hop')
    rw [hexpiry] at hrest
    exact hrest hts

/-- **What a cache holds.** Run operations on an empty cache that look keys up or write them. Their
moments increase, except that operations on one key may share a moment, as the lookup and the write
of one read through the cache do. At no later moment are there more entries than there is room for,
and the keys with a live entry are those that are among the last ones to be touched, as many as
there is room for, and whose last touch is less than the time to live ago. -/
theorem live_keys_eq_recent (expiry : Expiry) (capacity : ℕ) (ops : List (Moment × Op κ ν))
    (hkeyed : ∀ op ∈ ops, op.2.key?.isSome = true)
    (hapart : ops.Pairwise fun a b => a.1 < b.1 ∨ a.1 = b.1 ∧ a.2.key? = b.2.key?)
    (now : Moment) (hnow : ∀ op ∈ ops, op.1 ≤ now) :
    let c := (empty expiry capacity).after ops
    let ts := touches expiry.refreshes ((empty expiry capacity).trace ops)
    c.size ≤ max 1 capacity ∧
      ∀ k, k ∈ (c.liveEntries now).keys ↔ k ∈ (recency ts).take (max 1 capacity) ∧
        ∃ t, lastTouched? ts k = some t ∧ elapsed t now < expiry.ttl := by
  intro c ts
  have hexpiry : c.expiry = expiry := expiry_after
  have hcapacity : c.capacity = max 1 capacity := by
    rw [Nat.max_comm]
    exact capacity_after
  have hops : InOrder ops now := by
    refine List.pairwise_append.2 ⟨List.pairwise_map.2 ?_, List.pairwise_singleton _ _, ?_⟩
    · refine hapart.imp ?_
      rintro a b (hlt | ⟨heq, -⟩)
      · exact hlt.le
      · exact heq.le
    · intro m hm n hn
      obtain ⟨op, hop, rfl⟩ := List.mem_map.1 hm
      exact List.mem_singleton.1 hn ▸ hnow op hop
  have hts : Spaced ts := spaced_touches hapart
  have hholds : Holds ts now c := by
    have h := Holds.after (fun m _ => Holds.empty expiry capacity m) hops hkeyed
      (by rw [List.append_nil]; exact hts)
    rwa [List.append_nil] at h
  refine ⟨hcapacity ▸ hholds.fits, fun k => ?_⟩
  rw [Table.mem_keys, find?_liveEntries, ← Option.isSome_iff_exists, hholds.isSome_live?_iff hts,
    hcapacity, hexpiry]

/-- A key that was read is kept when a third one is written to a cache for two, and expires ten
moments after it was read. -/
theorem live_keys_eq_recent_third_key :
    let ops : List (Moment × Op ℕ ℕ) :=
      [(0, .insert 1 10), (3, .insert 2 20), (5, .get 1), (6, .insert 3 30)]
    let c := (empty (.afterAccess 10) 2).after ops
    c.size ≤ 2 ∧ 1 ∈ (c.liveEntries 14).keys ∧ 2 ∉ (c.liveEntries 14).keys ∧
      1 ∉ (c.liveEntries 15).keys := by
  intro ops c
  have h14 := live_keys_eq_recent (.afterAccess 10) 2 ops (by decide) (by decide) 14 (by decide)
  have h15 := live_keys_eq_recent (.afterAccess 10) 2 ops (by decide) (by decide) 15 (by decide)
  refine ⟨h14.1, (h14.2 1).2 ⟨by decide, 5, by decide, by decide⟩, fun h => ?_, fun h => ?_⟩
  · exact absurd ((h14.2 2).1 h).1 (by decide)
  · obtain ⟨t, ht, hfresh⟩ := ((h15.2 1).1 h).2
    obtain rfl : 5 = t := Option.some.inj ht
    exact absurd hfresh (by decide)

end Runs

end Footfall.Cache
