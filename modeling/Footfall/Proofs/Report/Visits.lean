import Footfall.Proofs.Report.Consistency

/-!
# The figures of visits

A report takes its figures of visits from sessions: the events are grouped, put into the order of
time and searched from either end. What the figures are is said here without sessions, on the list
of events as it is.

* A visit is a session identifier that some event has. It bounces if its events have one path and
  are no heartbeats (`Bounces`), and all of them together have every heartbeat once
  (`Session.sum_heartbeats`).
* The entry page of a visit is the path of its earliest page view, the first one in the list if
  there are several (`earliest?_eq_some_iff`); its exit page is the path of its latest page view,
  the last one in the list if there are several (`latest?_eq_some_iff`).

`Report.MeasuresVisits` defines the figures, and `Report.build_measuresVisits` says that a report
has them, for every list of events and every interval between heartbeats.
-/

namespace Footfall

/-! ## The earliest and the latest event -/

section Extremes

variable {p : Event → Bool} {events : List Event} {e : Event}

/-- The earliest event with a property; of several at one time, the first in the list. -/
def earliest? (p : Event → Bool) (events : List Event) : Option Event :=
  (events.filter p).argmin Event.createdAt

/-- The latest event with a property; of several at one time, the last in the list. -/
def latest? (p : Event → Bool) (events : List Event) : Option Event :=
  (events.filter p).reverse.argmax Event.createdAt

theorem earliest?_eq_some_iff : earliest? p events = some e ↔
    ∃ before after, events = before ++ e :: after ∧ p e = true ∧
      (∀ x ∈ before, p x = true → e.createdAt < x.createdAt) ∧
      ∀ x ∈ after, p x = true → e.createdAt ≤ x.createdAt :=
  argmin_filter_eq_some_iff Event.createdAt

theorem latest?_eq_some_iff : latest? p events = some e ↔
    ∃ before after, events = before ++ e :: after ∧ p e = true ∧
      (∀ x ∈ before, p x = true → x.createdAt ≤ e.createdAt) ∧
      ∀ x ∈ after, p x = true → x.createdAt < e.createdAt :=
  argmax_reverse_filter_eq_some_iff Event.createdAt

end Extremes

/-! ## Visits -/

section Visits

variable (events : List Event) (id : String)

/-- The session identifiers of the events. -/
def visits : Finset String := (events.map (·.sessionId)).toFinset

/-- The events of a visit have one path, and none of them is a heartbeat. -/
def Bounces : Prop :=
  (∀ a ∈ events, ∀ b ∈ events, a.sessionId = id → b.sessionId = id → a.path = b.path) ∧
    ∀ e ∈ events, e.sessionId = id → e.kind ≠ .heartbeat

instance : DecidablePred (Bounces events) := fun _ => inferInstanceAs (Decidable (_ ∧ _))

/-- Is the event a page view of the visit? -/
def isViewOf (e : Event) : Bool := e.isPageview && decide (e.sessionId = id)

/-- The path of the earliest page view of a visit. -/
def entryPageOf : Option String := (earliest? (isViewOf id) events).map Event.path

/-- The path of the latest page view of a visit. -/
def exitPageOf : Option String := (latest? (isViewOf id) events).map Event.path

end Visits

namespace Session

variable (events : List Event) (id : String)

theorem length_group : (group events).length = (visits events).card := by
  rw [group_eq, List.length_map, ids, length_distinct]
  rfl

/-- Counting sessions is counting visits. -/
theorem countP_group (p : Session → Bool) : (group events).countP p =
    ((visits events).filter fun id => p (ofId events id) = true).card := by
  rw [group_eq, List.countP_map, ids, countP_distinct]
  rfl

theorem distinctPaths_eq_one_iff {s : Session} : s.distinctPaths = 1 ↔
    s.events ≠ [] ∧ ∀ a ∈ s.events, ∀ b ∈ s.events, a.path = b.path := by
  rw [distinctPaths, length_distinct, Finset.card_eq_one]
  constructor
  · rintro ⟨path, hpath⟩
    have hall : ∀ e ∈ s.events, e.path = path := by
      intro e he
      have hmem : e.path ∈ (s.events.map (·.path)).toFinset :=
        List.mem_toFinset.2 (List.mem_map_of_mem he)
      rwa [hpath, Finset.mem_singleton] at hmem
    refine ⟨fun hnil => ?_, fun a ha b hb => (hall a ha).trans (hall b hb).symm⟩
    simp [hnil] at hpath
  · rintro ⟨hne, hall⟩
    obtain ⟨e, he⟩ := List.exists_mem_of_ne_nil _ hne
    refine ⟨e.path, Finset.ext fun path => ?_⟩
    rw [List.mem_toFinset, List.mem_map, Finset.mem_singleton]
    constructor
    · rintro ⟨a, ha, rfl⟩
      exact hall a ha e he
    · rintro rfl
      exact ⟨e, he, rfl⟩

/-- **The session of a visit bounces** if the visit does. -/
theorem isBounce_ofId {events : List Event} {id : String} (hid : id ∈ visits events) :
    (ofId events id).isBounce = true ↔ Bounces events id := by
  obtain ⟨e, he, rfl⟩ := List.mem_map.1 (List.mem_toFinset.1 hid)
  have hne : (ofId events e.sessionId).events ≠ [] :=
    List.ne_nil_of_mem (mem_events_ofId.2 ⟨he, rfl⟩)
  rw [isBounce, Bool.and_eq_true, beq_iff_eq, beq_iff_eq, distinctPaths_eq_one_iff, heartbeats,
    List.countP_eq_zero, Bounces]
  simp only [mem_events_ofId, decide_eq_true_eq]
  grind

theorem sum_heartbeats :
    (group events).foldl (fun n s => n + s.heartbeats) 0 =
      events.countP fun e => e.kind = .heartbeat := by
  rw [← (flatMap_group_perm events).countP_eq, List.countP_flatMap, List.sum_eq_foldl,
    List.foldl_map]
  rfl

theorem entryPage_ofId : (ofId events id).entryPage = entryPageOf events id := by
  rw [entryPage, ofId, inTime, find?_sortBy, List.filter_filter]
  rfl

theorem exitPage_ofId : (ofId events id).exitPage = exitPageOf events id := by
  rw [exitPage, ofId, inTime, find?_reverse_sortBy, List.filter_filter]
  rfl

/-- The pages of sessions are those of the visits, in order of first appearance. -/
theorem filterMap_group (page : Session → Option String) :
    (group events).filterMap page = (ids events).filterMap fun id => page (ofId events id) := by
  rw [group_eq, List.filterMap_map]
  rfl

end Session

/-! ## The report -/

namespace Report

/-- The figures of visits in a report are what they are defined to be on the events. A part of no
visits at all is zero. -/
structure MeasuresVisits (events : List Event) (interval : ℕ) (r : Report ℚ) : Prop where
  total : r.sessions.total = (visits events).card
  bounceRate : r.bounceRate =
    100 * ((visits events).filter (Bounces events)).card / (visits events).card
  conversionRate : r.conversionRate =
    100 * (sessionsWith events fun e => e.kind = .custom).card / (visits events).card
  /-- Every heartbeat stands for an interval. -/
  averageSeconds : r.sessions.averageSeconds =
    interval * (events.countP fun e => e.kind = .heartbeat) / (visits events).card
  entryPages : r.sessions.entryPages =
    topRows 10 ((Session.ids events).filterMap (entryPageOf events))
  exitPages : r.sessions.exitPages =
    topRows 10 ((Session.ids events).filterMap (exitPageOf events))

theorem averageSeconds_rat (interval heartbeats sessions : ℕ) :
    (averageSeconds interval heartbeats sessions : ℚ) = interval * heartbeats / sessions := by
  rw [averageSeconds]
  split_ifs with hsessions
  · simp [hsessions]
  · simp only [Scalar.ofNat_rat, mul_comm]

/-- **The figures of visits are those of the events**, for every list of events. -/
theorem build_measuresVisits (projectId : String) (start stop : Timestamp) (events : List Event)
    (interval : ℕ) :
    MeasuresVisits events interval (build projectId start stop events interval) where
  total := Session.length_group events
  bounceRate := by
    have hcount : (Session.group events).countP Session.isBounce =
        ((visits events).filter (Bounces events)).card := by
      rw [Session.countP_group, Finset.filter_congr fun id hid => Session.isBounce_ofId hid]
    change Scalar.percent _ _ = _
    rw [Scalar.percent_rat, hcount, Session.length_group]
  conversionRate := by
    have hcount : (Session.group events).countP Session.converts =
        (sessionsWith events fun e => e.kind = .custom).card := countP_group_any events _
    change Scalar.percent _ _ = _
    rw [Scalar.percent_rat, hcount, Session.length_group]
  averageSeconds := by
    change Report.averageSeconds interval _ _ = _
    rw [averageSeconds_rat, Session.sum_heartbeats, Session.length_group]
  entryPages := by
    change topRows rowLimit _ = _
    rw [Session.filterMap_group, rowLimit]
    simp only [Session.entryPage_ofId]
  exitPages := by
    change topRows rowLimit _ = _
    rw [Session.filterMap_group, rowLimit]
    simp only [Session.exitPage_ofId]

end Report

end Footfall
