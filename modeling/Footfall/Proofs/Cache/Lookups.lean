import Footfall.Proofs.Cache.Alike

/-!
# What lookups find

Run any operations on an empty cache at moments that do not go back, and then look a key up.

* What is found is what the history says of the key, and it is found whenever no more keys were
  written than there is room for (`Agrees.remembers_of_get`, `Agrees.get_of_remembers`).
* A value is initialised or loaded exactly if the lookup finds none (`Cache.obtain_fst`,
  `Cache.getOrCompute_eq`).
* A lookup that finds nothing and a loader that fails afterwards leave no trace: the history from
  then on is the same without them (`Cache.trace_of_missed`).

`Cache.lookups_eq_history` puts these together.
-/

namespace Footfall.Cache

variable {κ ν : Type} [DecidableEq κ] {c d : Cache κ ν} {past past' : History κ ν} {now : Moment}
  {ops : List (Moment × Op κ ν)}

/-! ## Runs -/

theorem Agrees.after (h : ∀ m ∈ ops.map (·.1) ++ [now], Agrees past m c) (hops : InOrder ops now) :
    Agrees (past ++ c.trace ops) now (c.after ops) := by
  induction ops generalizing past c with
  | nil => simpa [trace, Cache.after] using h
  | cons op r ih =>
    obtain ⟨t, op⟩ := op
    rw [InOrder, List.map_cons, List.cons_append, List.pairwise_cons] at hops
    have hstep := (h t (by simp)).step op
    have hrest := ih (fun m hm => hstep.mono (hops.1 m hm)) hops.2
    rwa [List.append_assoc] at hrest

theorem Orderly.after (h : ∀ m ∈ ops.map (·.1) ++ [now], Orderly m c)
    (hops : (ops.map (·.1) ++ [now]).Pairwise (· < ·)) : Orderly now (c.after ops) := by
  induction ops generalizing c with
  | nil => simpa [Cache.after] using h
  | cons op r ih =>
    obtain ⟨t, op⟩ := op
    rw [List.map_cons, List.cons_append, List.pairwise_cons] at hops
    exact ih (fun m hm => (h t (by simp)).step (hops.1 m hm) op) hops.2

/-- A write leaves caches alike that have room for all keys that were written and for this one. -/
theorem Alike.insert_of_room {k : κ} (h : Alike now c d) (hc : Agrees past now c)
    (hd : Agrees past' now d) (hwritten : writtenKeys past' = writtenKeys past)
    (hcard : (writtenKeys past ∪ {k}).card ≤ c.capacity) (v : ν) :
    Alike now (c.insert k v now) (d.insert k v now) := by
  have hpast : (writtenKeys past).card ≤ c.capacity :=
    (Finset.card_le_card Finset.subset_union_left).trans hcard
  have hcfits : c.entries.size ≤ c.capacity := hc.size_le.trans hpast
  have hdfits : d.entries.size ≤ d.capacity := by
    rw [← h.capacity]
    exact hd.size_le.trans (hwritten ▸ hpast)
  have hdroom : d.HasRoom k := hd.hasRoom (by rwa [hwritten, ← h.capacity])
  refine h.insert hcfits hdfits ?_ v
  rw [c.drivenOut?_of_room k now hcfits (hc.hasRoom hcard),
    d.drivenOut?_of_room k now hdfits hdroom]

/-- Two caches that are alike have the same history from then on, if there is room for all keys that
are written. -/
theorem trace_eq_of_room (hc : ∀ m ∈ ops.map (·.1), Agrees past m c)
    (hd : ∀ m ∈ ops.map (·.1), Agrees past' m d) (hwritten : writtenKeys past' = writtenKeys past)
    (h : ∀ m ∈ ops.map (·.1), Alike m c d) (hops : (ops.map (·.1)).Pairwise (· ≤ ·))
    (hcard : (writtenKeys (past ++ c.trace ops)).card ≤ c.capacity) :
    c.trace ops = d.trace ops := by
  induction ops generalizing past past' c d with
  | nil => rfl
  | cons op r ih =>
    obtain ⟨t, op⟩ := op
    rw [List.map_cons, List.pairwise_cons] at hops
    have hc' := hc t (by simp)
    have hd' := hd t (by simp)
    have ht := h t (by simp)
    have hwrite : ∀ k v, .wrote k v ∈ (c.step t op).1 →
        Alike t (c.insert k v t) (d.insert k v t) := by
      intro k v hmem
      have hsub : writtenKeys past ∪ {k} ⊆ writtenKeys (past ++ c.trace ((t, op) :: r)) := by
        rw [writtenKeys_append]
        refine Finset.union_subset_union_right (Finset.singleton_subset_iff.2 ?_)
        exact mem_writtenKeys.2 ⟨(t, .wrote k v), by simp [trace, hmem], rfl⟩
      exact ht.insert_of_room hc' hd' hwritten ((Finset.card_le_card hsub).trans hcard) v
    obtain ⟨hevents, halike⟩ := ht.step hwrite
    rw [trace, trace, hevents]
    congr 1
    refine ih (fun m hm => (hc'.step op).mono (hops.1 m hm))
      (fun m hm => (hd'.step op).mono (hops.1 m hm)) ?_ (fun m hm => halike.mono (hops.1 m hm))
      hops.2 ?_
    · rw [writtenKeys_append, writtenKeys_append, hwritten, hevents]
    · have hcapacity : (c.step t op).2.capacity = c.capacity := capacity_step op
      rwa [trace, ← List.append_assoc, ← hcapacity] at hcard

/-- Two caches that are alike have the same history from then on, if the operations are at different
moments. -/
theorem trace_eq_of_orderly (hc : ∀ m ∈ ops.map (·.1), Orderly m c)
    (hd : ∀ m ∈ ops.map (·.1), Orderly m d) (h : ∀ m ∈ ops.map (·.1), Alike m c d)
    (hops : (ops.map (·.1)).Pairwise (· < ·)) : c.trace ops = d.trace ops := by
  induction ops generalizing c d with
  | nil => rfl
  | cons op r ih =>
    obtain ⟨t, op⟩ := op
    rw [List.map_cons, List.pairwise_cons] at hops
    have hc' := hc t (by simp)
    have hd' := hd t (by simp)
    have ht := h t (by simp)
    have hwrite : ∀ k v, .wrote k v ∈ (c.step t op).1 →
        Alike t (c.insert k v t) (d.insert k v t) :=
      fun k v _ => ht.insert hc'.fits hd'.fits (ht.drivenOut?_eq hc'.distinct k) v
    obtain ⟨hevents, halike⟩ := ht.step hwrite
    rw [trace, trace, hevents]
    congr 1
    exact ih (fun m hm => hc'.step (hops.1 m hm) op) (fun m hm => hd'.step (hops.1 m hm) op)
      (fun m hm => halike.mono (hops.1 m hm).le) hops.2

/-! ## A lookup after a run -/

variable {k : κ} {v : ν}

theorem Agrees.remembers_of_get (h : Agrees past now c)
    (hpast : (past.map (·.1)).Pairwise (· ≤ ·)) (hfound : (c.get k now).1 = some v) :
    Remembers c.expiry past now k v := by
  rw [get_fst, Option.map_eq_some_iff] at hfound
  obtain ⟨e, he, rfl⟩ := hfound
  rw [live?_eq_some_iff] at he
  exact (remembers_iff hpast).2 ⟨e.touchedAt, h.sound he.1, he.2⟩

theorem Agrees.get_of_remembers (h : Agrees past now c)
    (hpast : (past.map (·.1)).Pairwise (· ≤ ·)) (hcard : (writtenKeys past).card ≤ c.capacity)
    (hremembers : Remembers c.expiry past now k v) : (c.get k now).1 = some v := by
  obtain ⟨touched, hlast, hlive⟩ := (remembers_iff hpast).1 hremembers
  rw [get_fst, (live?_eq_some_iff ..).2 ⟨h.complete hcard hlast hlive, hlive⟩]
  rfl

/-- The initial value is taken exactly if the lookup finds none. -/
theorem obtain_fst (initial : Unit → ν) :
    (c.obtain k initial now).1 =
      match (c.get k now).1 with
      | some v => (v, false)
      | none => (initial (), true) := by
  rw [obtain_eq]
  cases (c.get k now).1 <;> rfl

/-- Reading through the cache runs the loader exactly if the lookup finds none; then it is a lookup
followed by the end of the loader. -/
theorem getOrCompute_eq {ε : Type} (load : Unit → Except ε ν) :
    c.getOrCompute k load now =
      match (c.get k now).1 with
      | some v => (.ok (v, false), (c.get k now).2)
      | none => ((load ()).map fun v => (v, true),
          c.after [(now, .lookUp k), (now, .loaded k (load ()).toOption)]) := by
  rw [getOrCompute]
  rcases hget : c.get k now with ⟨_ | v, d⟩
  · cases load () <;> simp [Cache.after, step, hget, Except.map, Except.toOption]
  · rfl

/-- The end of a loader that failed leaves no trace, whatever happened since its lookup. -/
theorem trace_loaded_none (mid rest : List (Moment × Op κ ν)) (later : Moment) :
    c.trace (mid ++ (later, .loaded k none) :: rest) = c.trace (mid ++ rest) := by
  rw [trace_append, trace_append]
  rfl

/-- The moments of a run, of a lookup after it and of what follows are all different. -/
def AtDifferentMoments (ops : List (Moment × Op κ ν)) (now : Moment)
    (rest : List (Moment × Op κ ν)) : Prop :=
  (ops.map (·.1) ++ now :: rest.map (·.1)).Pairwise (· < ·)

/-- A lookup that finds none and a loader that fails at any later point leave no trace. -/
theorem trace_of_missed {start : Cache κ ν} {mid rest : List (Moment × Op κ ν)} {later : Moment}
    (hstart : ∀ m ∈ ops.map (·.1) ++ [now], Orderly m start) (hc : c = start.after ops)
    (hagrees : Agrees past now c) (hmiss : (c.get k now).1 = none)
    (hrest : (now :: (mid ++ rest).map (·.1)).Pairwise (· ≤ ·))
    (hcase : (writtenKeys (past ++ c.trace (mid ++ rest))).card ≤ c.capacity ∨
      AtDifferentMoments ops now (mid ++ rest)) :
    (c.get k now).2.trace (mid ++ (later, .loaded k none) :: rest) = c.trace (mid ++ rest) := by
  rw [trace_loaded_none]
  rw [List.pairwise_cons] at hrest
  have halike : ∀ m ∈ (mid ++ rest).map (·.1), Alike m c (c.get k now).2 :=
    fun m hm => (Alike.of_missed hmiss).mono (hrest.1 m hm)
  symm
  rcases hcase with hcard | hdifferent
  · have hlooked : Agrees (past ++ [(now, .looked k none)]) now (c.get k now).2 :=
      hmiss ▸ hagrees.looked k
    refine trace_eq_of_room (fun m hm => hagrees.mono (hrest.1 m hm))
      (fun m hm => hlooked.mono (hrest.1 m hm)) ?_ halike hrest.2 hcard
    simp [writtenKeys_append, Event.written?]
  · rw [AtDifferentMoments, List.append_cons, List.pairwise_append] at hdifferent
    have hlt : ∀ m ∈ (mid ++ rest).map (·.1), now < m := hdifferent.2.2 now (by simp)
    have horderly : Orderly now c := hc ▸ Orderly.after hstart hdifferent.1
    exact trace_eq_of_orderly (fun m hm => horderly.of_removed (hlt m hm).le rfl horderly.fits id)
      (fun m hm => horderly.get (hlt m hm) k) halike hdifferent.2.1

/-- **What lookups find.** After a run of operations at moments that do not go back:

* a lookup finds a value only if the history remembers it for the key;
* it does find that value, if no more keys were written than there is room for;
* an initial value is taken, and a loader run, exactly if the lookup finds none;
* a loader that fails, at any later point, leaves no trace: what follows has the same history
  without it;
* nor does the lookup that found none before it leave any, if there is room for all keys that are
  written, or else if the operations are at different moments, so that which entry is the oldest
  one is never open. -/
theorem lookups_eq_history (expiry : Expiry) (capacity : Nat) (ops : List (Moment × Op κ ν))
    (now : Moment) (hops : InOrder ops now) (k : κ) :
    let past := (empty expiry capacity).trace ops
    let c := (empty expiry capacity).after ops
    (∀ v, (c.get k now).1 = some v → Remembers expiry past now k v) ∧
    ((writtenKeys past).card ≤ max 1 capacity →
      ∀ v, Remembers expiry past now k v → (c.get k now).1 = some v) ∧
    (∀ initial, (c.obtain k initial now).1 =
      match (c.get k now).1 with
      | some v => (v, false)
      | none => (initial (), true)) ∧
    (∀ (ε : Type) (load : Unit → Except ε ν), c.getOrCompute k load now =
      match (c.get k now).1 with
      | some v => (.ok (v, false), (c.get k now).2)
      | none => ((load ()).map fun v => (v, true),
          c.after [(now, .lookUp k), (now, .loaded k (load ()).toOption)])) ∧
    (∀ mid later rest, (c.get k now).2.trace (mid ++ (later, .loaded k none) :: rest) =
      (c.get k now).2.trace (mid ++ rest)) ∧
    (∀ mid later rest, (c.get k now).1 = none →
      (now :: (mid ++ rest).map (·.1)).Pairwise (· ≤ ·) →
      (writtenKeys (past ++ c.trace (mid ++ rest))).card ≤ max 1 capacity ∨
        AtDifferentMoments ops now (mid ++ rest) →
      (c.get k now).2.trace (mid ++ (later, .loaded k none) :: rest) = c.trace (mid ++ rest)) := by
  intro past c
  have hexpiry : c.expiry = expiry := expiry_after
  have hcapacity : c.capacity = max 1 capacity := by
    rw [Nat.max_comm]
    exact capacity_after
  have hagrees : Agrees past now c :=
    Agrees.after (fun m _ => agrees_empty expiry capacity m) hops
  have hpast : (past.map (·.1)).Pairwise (· ≤ ·) :=
    pairwise_trace (List.pairwise_append.1 hops).1
  refine ⟨fun v hfound => ?_, fun hcard v hremembers => ?_, obtain_fst, fun ε load => ?_,
    fun mid later rest => ?_, fun mid later rest hmiss hrest hcase => ?_⟩
  · exact hexpiry ▸ hagrees.remembers_of_get hpast hfound
  · exact hagrees.get_of_remembers hpast (hcapacity ▸ hcard) (hexpiry ▸ hremembers)
  · exact getOrCompute_eq load
  · exact trace_loaded_none mid rest later
  · exact trace_of_missed (fun m _ => orderly_empty expiry capacity m) rfl hagrees hmiss hrest
      (hcapacity ▸ hcase)

/-- A value that was read six moments after it was written is found nine moments later, within a
time to live of ten. -/
theorem lookups_eq_history_refreshed :
    InOrder [(0, .insert 1 10), (6, .get 1)] 15 ∧
      Remembers (.afterAccess 10)
        ((empty (.afterAccess 10) 2).trace [(0, .insert 1 10), (6, .get 1)]) 15 1 10 := by
  have hops : InOrder [(0, Op.insert 1 10), (6, .get 1)] 15 := by
    unfold InOrder
    decide
  exact ⟨hops, (lookups_eq_history (.afterAccess 10) 2 _ 15 hops 1).1 10 (by decide)⟩

end Footfall.Cache
