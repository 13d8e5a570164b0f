import Footfall.Proofs.Cache.History

/-!
# A cache refines a plain map with moments

At every moment of a run the entries of the cache are among what is known from its history, and all
that is known and has not expired is among the entries, as long as no more keys were written than
there is room for (`Agrees`). Each event preserves this; `Agrees.step` puts the events of an
operation together, and `agrees_after` holds of every run from an empty cache.
-/

namespace Footfall.Cache

variable {κ ν : Type} [DecidableEq κ] {c : Cache κ ν} {past : History κ ν} {now : Moment} {k : κ}
  {ops : List (Moment × Op κ ν)}

@[simp] theorem expiry_step (op : Op κ ν) : (c.step now op).2.expiry = c.expiry := by
  rcases c.step_cases now op with ⟨k, h⟩ | ⟨k, v, h⟩ | ⟨k, v, -, h⟩ | h | ⟨k, h⟩ | h <;>
    simp [h, invalidate, clear]

@[simp] theorem capacity_step (op : Op κ ν) : (c.step now op).2.capacity = c.capacity := by
  rcases c.step_cases now op with ⟨k, h⟩ | ⟨k, v, h⟩ | ⟨k, v, -, h⟩ | h | ⟨k, h⟩ | h <;>
    simp [h, invalidate, clear]

@[simp] theorem expiry_after : (c.after ops).expiry = c.expiry := by
  induction ops generalizing c with
  | nil => rfl
  | cons op r ih => rw [Cache.after, ih, expiry_step]

@[simp] theorem capacity_after : (c.after ops).capacity = c.capacity := by
  induction ops generalizing c with
  | nil => rfl
  | cons op r ih => rw [Cache.after, ih, capacity_step]

/-- **The cache agrees with its history at a moment.** Every entry is what is known of its key. If
there is room for all keys that were written, what is known and has not expired has an entry. -/
structure Agrees (past : History κ ν) (now : Moment) (c : Cache κ ν) : Prop where
  sound : ∀ {k e}, c.entries.find? k = some e → lastKnown c.expiry.refreshes past k = some e
  complete : (writtenKeys past).card ≤ c.capacity → ∀ {k e},
    lastKnown c.expiry.refreshes past k = some e → elapsed e.touchedAt now < c.expiry.ttl →
      c.entries.find? k = some e

theorem agrees_empty (expiry : Expiry) (capacity : Nat) (now : Moment) :
    Agrees [] now (empty expiry capacity : Cache κ ν) where
  sound h := by simp [empty] at h
  complete _ := by simp

namespace Agrees

/-- As time passes, less has to have an entry. -/
theorem mono (h : Agrees past now c) {later : Moment} (hle : now ≤ later) :
    Agrees past later c where
  sound := h.sound
  complete hcard {_ _} hlast hlive :=
    h.complete hcard hlast (lt_of_le_of_lt (elapsed_le_right hle) hlive)

theorem keys_subset (h : Agrees past now c) : c.entries.keys.toFinset ⊆ writtenKeys past := by
  intro j hj
  obtain ⟨e, he⟩ := Table.mem_keys.1 (List.mem_toFinset.1 hj)
  exact mem_writtenKeys_of_lastKnown (h.sound he)

theorem size_le (h : Agrees past now c) : c.entries.size ≤ (writtenKeys past).card := by
  rw [← Table.length_keys, ← List.toFinset_card_of_nodup c.entries.nodup_keys]
  exact Finset.card_le_card h.keys_subset

/-- There is room for a key with which all keys that were written fit in. -/
theorem hasRoom (h : Agrees past now c) (hcard : (writtenKeys past ∪ {k}).card ≤ c.capacity) :
    c.HasRoom k := by
  refine c.hasRoom_of_card k (fun j hj => ?_) (by simp) hcard
  exact Finset.mem_union_left _ (h.keys_subset (List.mem_toFinset.2 hj))

theorem looked (h : Agrees past now c) (k : κ) :
    Agrees (past ++ [(now, .looked k (c.get k now).1)]) now (c.get k now).2 where
  sound {j e} hj := by
    rw [find?_get] at hj
    rw [expiry_get, lastKnown_append, get_fst]
    split_ifs at hj with hjk
    · obtain ⟨e', he', rfl⟩ := Option.map_eq_some_iff.1 hj
      rw [he', hjk, h.sound ((live?_eq_some_iff ..).1 he').1]
      cases hr : c.expiry.refreshes <;> simp [learn, read, hr]
    · rw [h.sound hj]
      cases c.live? k now <;> simp [learn, Ne.symm hjk]
  complete hcard {j e} hlast hlive := by
    have hcard' : (writtenKeys past).card ≤ c.capacity := by
      simpa [writtenKeys_append, Event.written?] using hcard
    rw [expiry_get] at hlive
    rw [expiry_get, lastKnown_append, get_fst] at hlast
    rw [find?_get]
    split_ifs with hjk
    · subst hjk
      cases hfound : c.live? j now with
      | none =>
        -- a live entry that is known would have been found
        rw [hfound] at hlast
        have hfind := h.complete hcard' hlast hlive
        rw [(live?_eq_some_iff ..).2 ⟨hfind, hlive⟩] at hfound
        exact absurd hfound (Option.some_ne_none e)
      | some e' =>
        rw [hfound, h.sound ((live?_eq_some_iff ..).1 hfound).1] at hlast
        rw [← hlast]
        cases hr : c.expiry.refreshes <;> simp [learn, read, hr]
    · refine h.complete hcard' ?_ hlive
      rw [← hlast]
      cases c.live? k now <;> simp [learn, Ne.symm hjk]

/-- A lookup that finds nothing may leave the cache as it is. -/
theorem missed (h : Agrees past now c) : Agrees (past ++ [(now, .looked k none)]) now c where
  sound hj := by
    rw [lastKnown_append]
    exact h.sound hj
  complete hcard {_ _} hlast := by
    rw [lastKnown_append] at hlast
    refine h.complete ?_ hlast
    simpa [writtenKeys_append, Event.written?] using hcard

theorem wrote (h : Agrees past now c) (k : κ) (v : ν) :
    Agrees (past ++ [(now, .wrote k v)]) now (c.insert k v now) where
  sound {j e} hj := by
    rw [expiry_insert, lastKnown_append, learn]
    by_cases hjk : j = k
    · subst hjk
      rw [if_pos rfl, ← find?_insert c j v now, hj]
    · rw [if_neg (Ne.symm hjk)]
      exact h.sound (c.find?_of_find?_insert k j v now hjk hj)
  complete hcard {j e} hlast hlive := by
    have hcard' : (writtenKeys past ∪ {k}).card ≤ c.capacity := by
      simpa [writtenKeys_append, Event.written?] using hcard
    rw [expiry_insert] at hlive
    rw [expiry_insert, lastKnown_append, learn] at hlast
    rw [c.find?_insert_of_room k j v now (h.hasRoom hcard')]
    by_cases hjk : j = k
    · rw [if_pos hjk.symm] at hlast
      rw [if_pos hjk, hlast]
    · rw [if_neg (Ne.symm hjk)] at hlast
      rw [if_neg hjk]
      exact h.complete ((Finset.card_le_card Finset.subset_union_left).trans hcard') hlast hlive

theorem forgot (h : Agrees past now c) (k : κ) :
    Agrees (past ++ [(now, .forgot k)]) now (c.invalidate k) where
  sound {j e} hj := by
    rw [invalidate, Table.find?_erase] at hj
    split_ifs at hj with hjk
    rw [lastKnown_append, learn, if_neg (Ne.symm hjk)]
    exact h.sound hj
  complete hcard {j e} hlast hlive := by
    rw [lastKnown_append, learn] at hlast
    split_ifs at hlast with hjk
    rw [invalidate, Table.find?_erase, if_neg (Ne.symm hjk)]
    refine h.complete ?_ hlast hlive
    simpa [writtenKeys_append, Event.written?, invalidate] using hcard

theorem cleared : Agrees (past ++ [(now, .cleared)]) now c.clear where
  sound {k e} hj := by
    rw [show (c.clear).entries.find? k = none from rfl] at hj
    cases hj
  complete _ {_ _} hlast := by simp [learn] at hlast

/-- An operation keeps the agreement. -/
theorem step (h : Agrees past now c) (op : Op κ ν) :
    Agrees (past ++ (c.step now op).1.map fun e => (now, e)) now (c.step now op).2 := by
  rcases c.step_cases now op with
    ⟨k, heq⟩ | ⟨k, v, heq⟩ | ⟨k, v, -, heq⟩ | heq | ⟨k, heq⟩ | heq <;> rw [heq]
  · exact h.looked k
  · exact h.wrote k v
  · simpa using (h.missed (k := k)).wrote k v
  · simpa using h
  · exact h.forgot k
  · exact cleared

end Agrees

end Footfall.Cache
