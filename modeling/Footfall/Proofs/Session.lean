import Footfall.Proofs.Gathering
import Footfall.Proofs.Time
import Footfall.Session

/-!
# The events of a session

The events of a list are gathered into sessions in one pass, after which each identifier has its
session (`group_eq`).

* A session holds exactly the events of the list with its identifier (`mem_events_ofId`), in the
  order of time (`pairwise_events_ofId`), so its first event is the first one in the list of those
  at the earliest moment (`first?_ofId`).
* All sessions together have the events of the list, each of them once (`flatMap_group_perm`).
* The sessions in which some event has a property are as many as their identifiers
  (`countP_group_any`).

`partitions_iff` says what grouping is without the pass: the sessions of a list are the one way to
take its events apart by their identifiers that loses nothing and keeps the order (`Partitions`).
-/

namespace Footfall

namespace Session

/-! ## The pass over the events -/

theorem mem_ids {id : String} {events : List Event} :
    id ∈ ids events ↔ ∃ e ∈ events, e.sessionId = id := by
  simp [ids]

theorem foldl_add (s : Session) (events : List Event) :
    events.foldl add s = { s with events := s.events ++ events } := by
  induction events generalizing s with
  | nil => rw [List.foldl_nil, List.append_nil]
  | cons e r ih => rw [List.foldl_cons, ih, add, List.append_assoc, List.singleton_append]

/-- **Every identifier has its session**, in the order in which the identifiers first appear. -/
theorem group_eq (events : List Event) : group events = (ids events).map (ofId events) := by
  rw [group, gather_eq, List.map_map, ids]
  refine List.map_congr_left fun id _ => ?_
  rw [Function.comp_apply, rowOf, foldl_add, List.nil_append, ofId]

/-! ## The sessions -/

@[simp] theorem mem_events_ofId {e : Event} {id : String} {events : List Event} :
    e ∈ (ofId events id).events ↔ e ∈ events ∧ e.sessionId = id := by
  simp [ofId, inTime]

/-- Events in order of time. -/
def Chronological (events : List Event) : Prop :=
  events.Pairwise fun a b => a.createdAt ≤ b.createdAt

theorem pairwise_events_ofId (events : List Event) (id : String) :
    Chronological (ofId events id).events :=
  pairwise_sortBy _ _

theorem first?_ofId (events : List Event) (id : String) :
    (ofId events id).first? =
      (events.filter fun e => e.sessionId = id).argmin Event.createdAt :=
  head?_sortBy _ _

theorem flatMap_group_perm (events : List Event) :
    ((group events).flatMap (·.events)).Perm events := by
  rw [group_eq, List.flatMap_map]
  have hsorted : ((ids events).flatMap fun id => (ofId events id).events).Perm
      ((ids events).flatMap fun id => events.filter fun e => e.sessionId = id) :=
    List.Perm.flatMap_left _ fun id _ => sortBy_perm _ _
  exact hsorted.trans (flatMap_filter_distinct_perm (·.sessionId) events)

/-- Among events in order of time, the first one with a property is the earliest one. -/
theorem Chronological.le_of_find? {events : List Event} (h : Chronological events)
    {p : Event → Bool} {e hit : Event} (hhit : events.find? p = some hit) (he : e ∈ events)
    (hp : p e = true) : hit.createdAt ≤ e.createdAt := by
  obtain ⟨-, before, after, rfl, hbefore⟩ := List.find?_eq_some_iff_append.1 hhit
  rcases List.mem_append.1 he with he | he
  · exact absurd hp (by simpa using hbefore e he)
  · rcases List.mem_cons.1 he with rfl | he
    · exact le_refl _
    · exact (List.pairwise_cons.1 (List.pairwise_append.1 h).2.1).1 e he

/-! ## What grouping is -/

/-- The sessions are the events of a list, taken apart by their session identifiers. Nothing is
lost, doubled or misfiled, and the order of the list decides wherever time does not. -/
structure Partitions (events : List Event) (sessions : List Session) : Prop where
  /-- No two sessions have the same identifier. -/
  nodup : (sessions.map (·.id)).Nodup
  /-- The identifiers are those of the events. -/
  mem_iff : ∀ id, id ∈ sessions.map (·.id) ↔ ∃ e ∈ events, e.sessionId = id
  /-- They are in order of first appearance in the list. -/
  first : (sessions.map (·.id)).Pairwise fun a b =>
    (events.map (·.sessionId)).idxOf a < (events.map (·.sessionId)).idxOf b
  /-- A session has exactly the events with its identifier, every one of them once. -/
  content : ∀ s ∈ sessions, s.events.Perm (events.filter fun e => e.sessionId = s.id)
  /-- They are in order of time, those of the same time in the order of the list. -/
  order : ∀ s ∈ sessions,
    StableOrder Event.createdAt (events.filter fun e => e.sessionId = s.id) s.events
  /-- All sessions together have the events of the list. -/
  all : (sessions.flatMap (·.events)).Perm events

theorem map_id_group (events : List Event) : (group events).map (·.id) = ids events := by
  rw [group_eq, List.map_map]
  exact List.map_id _

theorem partitions_group (events : List Event) : Partitions events (group events) where
  nodup := by
    rw [map_id_group]
    exact nodup_distinct _
  mem_iff id := by rw [map_id_group, mem_ids]
  first := by
    rw [map_id_group]
    exact pairwise_distinct _
  content s hs := by
    rw [group_eq] at hs
    obtain ⟨id, -, rfl⟩ := List.mem_map.1 hs
    exact sortBy_perm _ _
  order s hs := by
    rw [group_eq] at hs
    obtain ⟨id, -, rfl⟩ := List.mem_map.1 hs
    exact stableOrder_sortBy Event.createdAt _
  all := flatMap_group_perm events

/-- **Grouping is the lossless, stable partition of the events by session.** The sessions of a list
of events have pairwise different identifiers, those of the events in order of first appearance;
each of them has exactly the events with its identifier, in order of time and, within one instant,
of the list; and together they have the events of the list. Nothing but the sessions of the list
is like that. -/
theorem partitions_iff (events : List Event) (sessions : List Session) :
    Partitions events sessions ↔ sessions = group events := by
  constructor
  · intro h
    have hids : sessions.map (·.id) = ids events :=
      eq_distinct h.nodup (fun id => by rw [h.mem_iff, ← mem_ids, ids, mem_distinct]) h.first
    have hsession : ∀ s ∈ sessions, s = ofId events s.id := by
      intro s hs
      rw [ofId, inTime, ← stableOrder_iff.1 (h.order s hs)]
    calc sessions = sessions.map fun s => ofId events s.id := by
          conv_lhs => rw [← List.map_id sessions]
          exact List.map_congr_left hsession
      _ = (sessions.map (·.id)).map (ofId events) := by rw [List.map_map]; rfl
      _ = group events := by rw [hids, group_eq]
  · rintro rfl
    exact partitions_group events

end Session

/-! ## Sessions with an event of some kind -/

section

variable {events : List Event} {id : String}

/-- The identifiers of the sessions that contain an event with a property. -/
def sessionsWith (events : List Event) (p : Event → Bool) : Finset String :=
  ((events.filter p).map (·.sessionId)).toFinset

theorem mem_sessionsWith {p : Event → Bool} :
    id ∈ sessionsWith events p ↔ ∃ e ∈ events, p e = true ∧ e.sessionId = id := by
  simp [sessionsWith, and_assoc]

theorem sessionsWith_subset {p q : Event → Bool} (h : ∀ e, p e = true → q e = true) :
    sessionsWith events p ⊆ sessionsWith events q := by
  intro id hid
  obtain ⟨e, he, hp, hs⟩ := mem_sessionsWith.1 hid
  exact mem_sessionsWith.2 ⟨e, he, h e hp, hs⟩

theorem sessionsWith_congr {p q : Event → Bool} (h : ∀ e ∈ events, p e = q e) :
    sessionsWith events p = sessionsWith events q := by
  rw [sessionsWith, sessionsWith, List.filter_congr h]

@[simp] theorem sessionsWith_false : sessionsWith events (fun _ => false) = ∅ := by
  simp [sessionsWith]

/-- Counting the sessions in which some event has a property is counting their identifiers. -/
theorem countP_group_any (events : List Event) (p : Event → Bool) :
    (Session.group events).countP (fun s => s.events.any p) = (sessionsWith events p).card := by
  rw [Session.group_eq, List.countP_map, Session.ids, countP_distinct]
  congr 1
  ext id
  simp only [Function.comp, Finset.mem_filter, List.mem_toFinset, List.mem_map, List.any_eq_true,
    Session.mem_events_ofId, mem_sessionsWith]
  constructor
  · rintro ⟨-, e, ⟨he, hid⟩, hp⟩
    exact ⟨e, he, hp, hid⟩
  · rintro ⟨e, he, hp, hid⟩
    exact ⟨⟨e, he, hid⟩, e, ⟨he, hid⟩, hp⟩

end

end Footfall
