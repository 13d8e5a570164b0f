import Footfall.Proofs.Funnel.Reach
import Footfall.Proofs.Report.Heatmap
import Footfall.Proofs.Scalar
import Footfall.Report.Basic

/-!
# What the order of the events does not matter for

Events come in the order of the store, but most figures do not depend on it: a list of events and a
permutation of it give the same funnels, the same conversions and the same totals of a report.

* The sessions of both lists have the same events, each in order of time, so they differ at most in
  the order of events of the same time (`Session.SameEvents`). They come in different orders, but
  the values of whatever does not tell such sessions apart are the same up to their order
  (`Session.map_group_perm`).
* The walk through a funnel may stop at different events of two such sessions, but at the same
  instants (`Session.SameEvents.walkFrom_eq`), and only these are counted.
* Sums and counts do not look at the order of the sessions; a mean does not if its sum is exact
  (`Funnel.meanSeconds_perm`).
* The latest events are the same if no two events have the same time and number.

`figures_eq_of_perm` puts these together. What it leaves out of a report are the breakdowns by
label and the entry and exit pages: among equal counts the order of the events decides.
-/

namespace Footfall

variable {events events' : List Event}

/-! ## Sessions -/

namespace Session

variable {s t : Session}

/-- Two sessions have the same events, each in order of time. -/
structure SameEvents (s t : Session) : Prop where
  perm : s.events.Perm t.events
  left : Chronological s.events
  right : Chronological t.events

theorem sameEvents_ofId (h : events.Perm events') (id : String) :
    SameEvents (ofId events id) (ofId events' id) where
  perm := (sortBy_perm _ _).trans ((h.filter _).trans (sortBy_perm _ _).symm)
  left := pairwise_events_ofId events id
  right := pairwise_events_ofId events' id

theorem ids_perm (h : events.Perm events') : (ids events).Perm (ids events') :=
  distinct_perm (h.map _)

/-- **The sessions of a permutation** give the same values of anything that sessions with the same
events have in common. -/
theorem map_group_perm {β : Type} {f : Session → β} (hf : ∀ {s t}, SameEvents s t → f s = f t)
    (h : events.Perm events') : ((group events).map f).Perm ((group events').map f) := by
  have hsame : (ids events).map (f ∘ ofId events) = (ids events).map (f ∘ ofId events') :=
    List.map_congr_left fun id _ => hf (sameEvents_ofId h id)
  rw [group_eq, group_eq, List.map_map, List.map_map, hsame]
  exact (ids_perm h).map _

theorem countP_group_eq {p : Session → Bool} (hp : ∀ {s t}, SameEvents s t → p s = p t)
    (h : events.Perm events') : (group events).countP p = (group events').countP p := by
  have hcount := (map_group_perm hp h).countP_eq fun b => b
  rwa [List.countP_map, List.countP_map] at hcount

theorem length_group_eq (h : events.Perm events') :
    (group events).length = (group events').length := by
  rw [group_eq, group_eq, List.length_map, List.length_map]
  exact (ids_perm h).length_eq

namespace SameEvents

theorem countP_eq (h : SameEvents s t) (p : Event → Bool) :
    s.events.countP p = t.events.countP p :=
  h.perm.countP_eq p

theorem any_eq (h : SameEvents s t) (p : Event → Bool) : s.events.any p = t.events.any p :=
  h.perm.any_eq

theorem isBounce_eq (h : SameEvents s t) : s.isBounce = t.isBounce := by
  have hpaths : s.distinctPaths = t.distinctPaths :=
    (distinct_perm (h.perm.map _)).length_eq
  rw [isBounce, isBounce, hpaths, heartbeats, heartbeats, h.countP_eq]

/-- The first events with some property may be different ones, but they are at the same time. -/
theorem createdAt_find?_eq (h : SameEvents s t) (p : Event → Bool) :
    (s.events.find? p).map Event.createdAt = (t.events.find? p).map Event.createdAt := by
  cases hs : s.events.find? p with
  | none =>
    have hnone : t.events.find? p = none :=
      List.find?_eq_none.2 fun e he => List.find?_eq_none.1 hs e (h.perm.mem_iff.2 he)
    rw [hnone]
  | some a =>
    have ha : a ∈ t.events := h.perm.mem_iff.1 (List.mem_of_find?_eq_some hs)
    obtain ⟨b, ht⟩ : ∃ b, t.events.find? p = some b :=
      Option.isSome_iff_exists.1 (List.find?_isSome.2 ⟨a, ha, List.find?_some hs⟩)
    have hb : b ∈ s.events := h.perm.mem_iff.2 (List.mem_of_find?_eq_some ht)
    have hab : a.createdAt = b.createdAt :=
      le_antisymm (h.left.le_of_find? hs hb (List.find?_some ht))
        (h.right.le_of_find? ht ha (List.find?_some hs))
    rw [ht, Option.map_some, Option.map_some, hab]

/-- **Sessions with the same events walk alike** through the steps of a funnel. -/
theorem walkFrom_eq (h : SameEvents s t) (admits : Timestamp → Bool) (steps : List FunnelStep) :
    s.walkFrom admits steps = t.walkFrom admits steps := by
  induction steps generalizing admits with
  | nil => rfl
  | cons step rest ih =>
    have hfirst := h.createdAt_find?_eq fun e => admits e.createdAt && step.takenBy e
    rw [walkFrom, walkFrom]
    cases hs : s.events.find? fun e => admits e.createdAt && step.takenBy e with
    | none =>
      rw [hs, Option.map_none, eq_comm, Option.map_eq_none_iff] at hfirst
      rw [hfirst]
    | some a =>
      rw [hs, Option.map_some, eq_comm, Option.map_eq_some_iff] at hfirst
      obtain ⟨b, ht, htime⟩ := hfirst
      simp only [ht, htime, ih]

end SameEvents

end Session

/-! ## Funnels -/

theorem walks_perm (h : events.Perm events') (start : Timestamp) (steps : List FunnelStep) :
    (walks events start steps).Perm (walks events' start steps) :=
  Session.map_group_perm (fun hsame => hsame.walkFrom_eq _ steps) h

namespace Funnel

variable {ws ws' : List (List Timestamp)}

/-- The mean of exact numbers does not depend on the order in which they are added up. -/
theorem meanSeconds_perm {gaps gaps' : List ℤ} (h : gaps.Perm gaps') :
    (meanSeconds gaps : Option ℚ) = meanSeconds gaps' := by
  have hempty : gaps.isEmpty = gaps'.isEmpty := by
    rw [Bool.eq_iff_iff, List.isEmpty_iff_length_eq_zero, List.isEmpty_iff_length_eq_zero,
      h.length_eq]
  have hcomm : RightCommutative fun (acc : ℚ) (ms : ℤ) =>
      acc + Scalar.ofInt ms / Scalar.ofNat 1000 := ⟨fun a m n => add_right_comm a _ _⟩
  rw [meanSeconds, meanSeconds, hempty, h.foldl_eq, h.length_eq]

theorem stepResult_perm (h : ws.Perm ws') (step : FunnelStep) (k : ℕ) :
    (stepResult ws step k : StepResult ℚ) = stepResult ws' step k := by
  have hreached : ∀ k, reached ws k = reached ws' k := fun _ => h.countP_eq _
  have hgaps : (gaps ws k).Perm (gaps ws' k) := h.filterMap _
  rw [stepResult, stepResult, hreached, hreached, h.length_eq, meanSeconds_perm hgaps]

theorem analyze_eq_of_perm (f : Funnel) (h : events.Perm events') (start : Timestamp) :
    (f.analyze events start : FunnelAnalysis ℚ) = f.analyze events' start := by
  have hwalks := walks_perm h start f.ordered
  rw [analyze, analyze]
  split_ifs
  · rfl
  · have hsteps : f.ordered.zipIdx.map (fun p =>
          (stepResult (walks events start f.ordered) p.1 p.2 : StepResult ℚ)) =
        f.ordered.zipIdx.map fun p => stepResult (walks events' start f.ordered) p.1 p.2 :=
      List.map_congr_left fun p _ => stepResult_perm hwalks p.1 p.2
    exact congrArg₂ (FunnelAnalysis.mk f.id f.name) hwalks.length_eq hsteps

end Funnel

/-! ## Conversions -/

section

variable {α : Type} [Scalar α]

theorem Goal.conversions_eq_of_perm (h : events.Perm events') (goalType matchValue : String) :
    (Goal.conversions goalType matchValue events : Conversions α) =
      Goal.conversions goalType matchValue events' := by
  rw [conversions, conversions]
  cases Criterion.parse goalType with
  | none => rfl
  | some c =>
    have hconverting := Session.countP_group_eq (fun hsame =>
      hsame.any_eq (c.meetsLoosely matchValue)) h
    simp only [hconverting, Session.length_group_eq h]

/-! ## Reports -/

namespace Report

/-- The figures of two reports that do not depend on the order of their events. -/
structure SameTotals (r r' : Report α) : Prop where
  totalEvents : r.totalEvents = r'.totalEvents
  pageviews : r.pageviews = r'.pageviews
  uniqueVisitors : r.uniqueVisitors = r'.uniqueVisitors
  bounceRate : r.bounceRate = r'.bounceRate
  conversionRate : r.conversionRate = r'.conversionRate
  totalSessions : r.sessions.total = r'.sessions.total
  averageSeconds : r.sessions.averageSeconds = r'.sessions.averageSeconds
  scrollDepths : r.scrollDepths = r'.scrollDepths
  heatmap : r.heatmap = r'.heatmap
  peaks : r.peaks = r'.peaks

theorem ofKind_perm (h : events.Perm events') (kind : EventKind) :
    (ofKind kind events).Perm (ofKind kind events') :=
  h.filter _

theorem scrollRows_eq_of_perm (h : events.Perm events') :
    scrollRows events = scrollRows events' := by
  have hdepths : ((ofKind .scroll events).filterMap Event.scrollDepth).Perm
      ((ofKind .scroll events').filterMap Event.scrollDepth) := (ofKind_perm h _).filterMap _
  rw [scrollRows, scrollRows, sortBy_tally_eq_of_perm hdepths]

theorem heatmap_eq_of_perm (h : events.Perm events') :
    Heatmap.ofEvents events = Heatmap.ofEvents events' := by
  funext d k
  rw [Heatmap.ofEvents_eq, Heatmap.ofEvents_eq, h.countP_eq]

theorem sum_heartbeats_eq (h : events.Perm events') :
    (Session.group events).foldl (fun n s => n + s.heartbeats) 0 =
      (Session.group events').foldl (fun n s => n + s.heartbeats) 0 := by
  have hperm := Session.map_group_perm (f := Session.heartbeats)
    (fun hsame => hsame.countP_eq _) h
  rw [← List.foldl_map (f := Session.heartbeats), ← List.foldl_map (f := Session.heartbeats),
    ← List.sum_eq_foldl, ← List.sum_eq_foldl, hperm.sum_eq]

theorem sameTotals_of_perm (h : events.Perm events') (projectId : String)
    (start stop : Timestamp) (interval : ℕ) :
    SameTotals (build projectId start stop events interval : Report α)
      (build projectId start stop events' interval) where
  totalEvents := h.length_eq
  pageviews := (ofKind_perm h _).length_eq
  uniqueVisitors := (distinct_perm (h.map _)).length_eq
  bounceRate := by
    simp only [build, Session.countP_group_eq (fun hsame => hsame.isBounce_eq) h,
      Session.length_group_eq h]
  conversionRate := by
    have hconverting := Session.countP_group_eq (p := Session.converts)
      (fun hsame => hsame.any_eq _) h
    simp only [build, hconverting, Session.length_group_eq h]
  totalSessions := Session.length_group_eq h
  averageSeconds := by simp only [build, sum_heartbeats_eq h, Session.length_group_eq h]
  scrollDepths := scrollRows_eq_of_perm h
  heatmap := heatmap_eq_of_perm h
  peaks := congrArg Heatmap.peaks (heatmap_eq_of_perm h)

/-! The list of the latest events is sorted by time and number. -/

theorem moreRecent_iff {a b : Event} : moreRecent a b = true ↔
    b.createdAt < a.createdAt ∨ a.createdAt = b.createdAt ∧ b.id ≤ a.id := by
  simp [moreRecent]

theorem moreRecent_trans (a b c : Event) (hab : moreRecent a b = true)
    (hbc : moreRecent b c = true) : moreRecent a c = true := by
  rw [moreRecent_iff] at *
  rcases hab with hab | ⟨hab, hid⟩
  · rcases hbc with hbc | ⟨hbc, -⟩
    · exact Or.inl (hbc.trans hab)
    · exact Or.inl (hbc ▸ hab)
  · rcases hbc with hbc | ⟨hbc, hid'⟩
    · exact Or.inl (hab ▸ hbc)
    · exact Or.inr ⟨hab.trans hbc, hid'.trans hid⟩

theorem moreRecent_total (a b : Event) : (moreRecent a b || moreRecent b a) = true := by
  rw [Bool.or_eq_true, moreRecent_iff, moreRecent_iff]
  rcases lt_trichotomy a.createdAt b.createdAt with hlt | heq | hgt
  · exact Or.inr (Or.inl hlt)
  · exact (le_total b.id a.id).imp (fun h => Or.inr ⟨heq, h⟩) fun h => Or.inr ⟨heq.symm, h⟩
  · exact Or.inl (Or.inl hgt)

/-- Events that come before each other have the same time and number. -/
theorem eq_of_moreRecent {a b : Event} (hab : moreRecent a b = true)
    (hba : moreRecent b a = true) : (a.createdAt, a.id) = (b.createdAt, b.id) := by
  rw [moreRecent_iff] at hab hba
  rcases hab with hab | ⟨htime, hab⟩
  · rcases hba with hba | ⟨htime, -⟩
    · exact absurd hab hba.asymm
    · exact absurd htime hab.ne
  · rcases hba with hba | ⟨-, hba⟩
    · exact absurd htime hba.ne
    · rw [htime, le_antisymm hba hab]

theorem recent_eq_of_perm (h : events.Perm events')
    (hdistinct : (events.map fun e => (e.createdAt, e.id)).Nodup) :
    recent events = recent events' := by
  have hsorted : events.mergeSort moreRecent = events'.mergeSort moreRecent :=
    mergeSort_eq_of_perm moreRecent_trans moreRecent_total h fun a ha b hb hab hba =>
      List.inj_on_of_nodup_map hdistinct ha hb (eq_of_moreRecent hab hba)
  rw [recent, recent, hsorted]

end Report

/-! ## The figures of a permutation -/

/-- **The order of the events does not matter.** A list of events and a permutation of it have, in
exact numbers, the same analysis of every funnel; the same conversions of every goal; the same
numbers of events, page views, visitors and sessions, rates, mean length of sessions, scroll depths,
heatmap and peaks; and the same latest events, if no two events have the same time and number. -/
theorem figures_eq_of_perm (h : events.Perm events') :
    (∀ (f : Funnel) (start : Timestamp),
      (f.analyze events start : FunnelAnalysis ℚ) = f.analyze events' start) ∧
    (∀ goalType matchValue : String,
      (Goal.conversions goalType matchValue events : Conversions α) =
        Goal.conversions goalType matchValue events') ∧
    ∀ (projectId : String) (start stop : Timestamp) (interval : ℕ),
      Report.SameTotals (Report.build projectId start stop events interval : Report α)
        (Report.build projectId start stop events' interval) ∧
      ((events.map fun e => (e.createdAt, e.id)).Nodup →
        (Report.build projectId start stop events interval : Report α).recentEvents =
          (Report.build projectId start stop events' interval : Report α).recentEvents) :=
  ⟨fun f start => f.analyze_eq_of_perm h start, Goal.conversions_eq_of_perm h,
    fun projectId start stop interval =>
      ⟨Report.sameTotals_of_perm h projectId start stop interval, Report.recent_eq_of_perm h⟩⟩

end

/-- A visit to the cart with an order at the same instant and one later, and a visit without an
order, read forwards and backwards. -/
theorem figures_eq_of_reversed_visits :
    let event (id : Int) (kind : EventKind) (session : String) (seconds : Int) : Event :=
      { Event.bare "shop" kind "/cart" session "visitor" ⟨seconds, 0⟩ with
        id := id, eventName := if kind = .custom then some "order" else none }
    let events := [event 1 .pageview "a" 10, event 2 .custom "a" 10, event 3 .pageview "b" 15,
      event 4 .custom "a" 20]
    let funnel : Funnel :=
      ⟨"f", "shop", "checkout",
        [⟨"", 1, "url", "/cart", "cart"⟩, ⟨"", 2, "event", "order", "order"⟩]⟩
    let report (events : List Event) : Report ℚ := Report.build "shop" ⟨0, 0⟩ ⟨60, 0⟩ events 30
    events.reverse.map (·.id) ≠ events.map (·.id) ∧ events.Perm events.reverse ∧
      (events.map fun e => (e.createdAt, e.id)).Nodup ∧
      (funnel.analyze events.reverse ⟨10, 0⟩ : FunnelAnalysis ℚ) =
        funnel.analyze events ⟨10, 0⟩ ∧
      (report events.reverse).pageviews = 2 ∧ (report events.reverse).uniqueVisitors = 1 ∧
      (report events.reverse).recentEvents = (report events).recentEvents := by
  intro event events funnel report
  have hperm : events.Perm events.reverse := (List.reverse_perm events).symm
  have hdistinct : (events.map fun e => (e.createdAt, e.id)).Nodup := by decide
  have hpageviews : (report events).pageviews = 2 := by decide
  have hvisitors : (report events).uniqueVisitors = 1 := by decide
  obtain ⟨hfunnels, -, hreports⟩ := figures_eq_of_perm (α := ℚ) hperm
  obtain ⟨htotals, hrecent⟩ := hreports "shop" ⟨0, 0⟩ ⟨60, 0⟩ 30
  exact ⟨by decide, hperm, hdistinct, (hfunnels funnel _).symm, htotals.pageviews ▸ hpageviews,
    htotals.uniqueVisitors ▸ hvisitors, (hrecent hdistinct).symm⟩

end Footfall
