import Footfall.Proofs.Report.Heatmap
import Footfall.Proofs.Report.Rows
import Footfall.Proofs.Scalar
import Footfall.Proofs.Session

/-!
# The figures of a report agree with each other

The figures of a report are computed from the same events, each by its own filter, grouping or
ranking. `Report.Consistent` lists how they have to fit together:

* the heatmap, its hours and its days have every event once (`Heatmap.sum_ofEvents`);
* there are no more page views, visitors and sessions than events, and none of the latter two only
  if there are no events (`visitors_eq_zero_iff`, `Session.length_group_eq_zero_iff`);
* the rows of every breakdown are different, at most ten, and count no more than there is to count
  (`isBreakdown_of_mem_breakdowns`); those of the pages count all page views, and those of the entry
  and exit pages all sessions with a page view, unless rows are left out;
* rates are percentages.

`Report.build_consistent` says that they do, for every list of events.
-/

namespace Footfall

variable {events : List Event}

/-- Is the event a page view? -/
def Event.isPageview (e : Event) : Bool := e.kind = .pageview

/-! ## Sessions and their page views -/

namespace Session

theorem length_group_le (events : List Event) : (group events).length ≤ events.length := by
  rw [group_eq, List.length_map]
  exact (length_distinct_le _).trans_eq (List.length_map _)

theorem length_group_eq_zero_iff : (group events).length = 0 ↔ events = [] := by
  rw [group_eq, List.length_map, List.length_eq_zero_iff, ids, distinct_eq_nil_iff,
    List.map_eq_nil_iff]

theorem isSome_entryPage (s : Session) : s.entryPage.isSome = s.events.any Event.isPageview := by
  rw [entryPage, Option.isSome_map, List.isSome_find?]
  rfl

theorem isSome_exitPage (s : Session) : s.exitPage.isSome = s.events.any Event.isPageview := by
  rw [exitPage, Option.isSome_map, List.isSome_find?, List.any_reverse]
  rfl

/-- If exactly the sessions with a page view have some page, there are as many of these pages as
such sessions. -/
theorem length_filterMap_group {page : Session → Option String}
    (hpage : ∀ s : Session, (page s).isSome = s.events.any Event.isPageview) (events : List Event) :
    ((group events).filterMap page).length = (sessionsWith events Event.isPageview).card := by
  rw [List.length_filterMap_eq_countP, ← countP_group_any]
  simp only [hpage]

end Session

namespace Report

theorem visitors_le (events : List Event) : visitors events ≤ events.length :=
  (length_distinct_le _).trans_eq (List.length_map _)

theorem visitors_eq_zero_iff : visitors events = 0 ↔ events = [] := by
  rw [visitors, List.length_eq_zero_iff, distinct_eq_nil_iff, List.map_eq_nil_iff]

section

variable {α : Type}

/-- The breakdowns of a report, the entry and exit pages of its sessions among them. -/
def breakdowns (r : Report α) : List (List Row) :=
  [r.topPages, r.browsers, r.operatingSystems, r.devices, r.referrers, r.countries, r.regions,
    r.utmSources, r.utmMediums, r.utmCampaigns, r.customEvents, r.scrollDepths, r.outboundLinks,
    r.downloads, r.sessions.entryPages, r.sessions.exitPages]

/-- The number of things that the rows of a breakdown count. -/
def counted (rows : List Row) : ℕ := (rows.map Row.count).sum

end

/-- **The figures of a report on some events agree with each other.** -/
structure Consistent (events : List Event) (r : Report ℚ) : Prop where
  totalEvents : r.totalEvents = events.length
  /-- The cells of the heatmap have every event once, and so have its hours and its days. -/
  cells : ∑ d, ∑ h, r.heatmap d h = r.totalEvents
  hours : ∑ h, r.heatmap.hourTotal h = r.totalEvents
  days : ∑ d, r.heatmap.dayTotal d = r.totalEvents
  /-- The peaks show totals of the heatmap. -/
  peakHours : ∀ p ∈ r.peaks.hours, p.total = r.heatmap.hourTotal p.index
  peakDays : ∀ p ∈ r.peaks.days, p.total = r.heatmap.dayTotal p.index
  pageviews_le : r.pageviews ≤ r.totalEvents
  visitors_le : r.uniqueVisitors ≤ r.totalEvents
  visitors_eq_zero : r.uniqueVisitors = 0 ↔ events = []
  sessions_le : r.sessions.total ≤ r.totalEvents
  sessions_eq_zero : r.sessions.total = 0 ↔ events = []
  /-- The pages count the page views, all of them exactly if there are at most ten pages. -/
  topPages_le : counted r.topPages ≤ r.pageviews
  topPages_eq : counted r.topPages = r.pageviews ↔
    ((events.filter Event.isPageview).map Event.path).toFinset.card ≤ 10
  /-- Entry and exit pages count the sessions with a page view, all of them exactly if there are at
  most ten such pages. -/
  entryPages_le : counted r.sessions.entryPages ≤ (sessionsWith events Event.isPageview).card
  entryPages_eq : counted r.sessions.entryPages = (sessionsWith events Event.isPageview).card ↔
    ((Session.group events).filterMap Session.entryPage).toFinset.card ≤ 10
  exitPages_le : counted r.sessions.exitPages ≤ (sessionsWith events Event.isPageview).card
  exitPages_eq : counted r.sessions.exitPages = (sessionsWith events Event.isPageview).card ↔
    ((Session.group events).filterMap Session.exitPage).toFinset.card ≤ 10
  /-- Breakdowns have at most ten rows, of different labels with positive counts, which add up to at
  most the number of events. -/
  breakdowns : ∀ rows ∈ r.breakdowns, IsBreakdown 10 r.totalEvents rows
  bounceRate : r.bounceRate ∈ Set.Icc 0 100
  conversionRate : r.conversionRate ∈ Set.Icc 0 100

section Build

variable (projectId : String) (start stop : Timestamp) (events : List Event) (interval : ℕ)

theorem isBreakdown_pages {page : Session → Option String} :
    IsBreakdown rowLimit events.length
      (topRows rowLimit ((Session.group events).filterMap page)) :=
  isBreakdown_topRows ((List.length_filterMap_le ..).trans (Session.length_group_le events))

theorem isBreakdown_ofKind (label : Event → Option String) (kind : EventKind) :
    IsBreakdown rowLimit events.length (breakdown label (ofKind kind events)) :=
  isBreakdown_breakdown label (length_ofKind_le kind events)

/-- **Every breakdown** has different labels, at most ten of them, and counts no more than the
events. -/
theorem isBreakdown_of_mem_breakdowns :
    ∀ rows ∈ (build projectId start stop events interval : Report ℚ).breakdowns,
      IsBreakdown rowLimit events.length rows := by
  have hall := fun label => isBreakdown_breakdown label (le_refl events.length)
  have hpages : ((ofKind .pageview events).map Event.path).length ≤ events.length :=
    (List.length_map _).trans_le (length_ofKind_le .pageview events)
  simp only [breakdowns, build, List.forall_mem_cons]
  exact ⟨isBreakdown_topRows hpages, hall _, hall _, hall _, hall _, hall _, hall _, hall _, hall _,
    hall _, isBreakdown_ofKind events _ _, isBreakdown_scrollRows (le_refl _),
    isBreakdown_ofKind events _ _, isBreakdown_ofKind events _ _, isBreakdown_pages events,
    isBreakdown_pages events, fun _ h => absurd h List.not_mem_nil⟩

/-- The pages of sessions count the sessions with a page view. -/
theorem counted_pages {page : Session → Option String}
    (hpage : ∀ s : Session, (page s).isSome = s.events.any Event.isPageview) :
    counted (topRows rowLimit ((Session.group events).filterMap page)) ≤
        (sessionsWith events Event.isPageview).card ∧
      (counted (topRows rowLimit ((Session.group events).filterMap page)) =
          (sessionsWith events Event.isPageview).card ↔
        ((Session.group events).filterMap page).toFinset.card ≤ rowLimit) := by
  rw [← Session.length_filterMap_group hpage]
  exact ⟨(isBreakdown_topRows (le_refl _)).sum_le, sum_topRows_eq_iff ..⟩

/-- **The figures of every report agree with each other.** -/
theorem build_consistent :
    Consistent events (build projectId start stop events interval) := by
  have hpages : counted (topRows rowLimit ((ofKind .pageview events).map Event.path)) ≤
      ((ofKind .pageview events).map Event.path).length := (isBreakdown_topRows (le_refl _)).sum_le
  have hentry := counted_pages events Session.isSome_entryPage
  have hexit := counted_pages events Session.isSome_exitPage
  exact
    { totalEvents := rfl
      cells := Heatmap.sum_ofEvents events
      hours := Heatmap.sum_hourTotal events
      days := Heatmap.sum_dayTotal events
      peakHours := fun p hp => Heatmap.total_of_mem_ranked (List.mem_of_mem_take hp)
      peakDays := fun p hp => Heatmap.total_of_mem_ranked (List.mem_of_mem_take hp)
      pageviews_le := length_ofKind_le .pageview events
      visitors_le := visitors_le events
      visitors_eq_zero := visitors_eq_zero_iff
      sessions_le := Session.length_group_le events
      sessions_eq_zero := Session.length_group_eq_zero_iff
      topPages_le := hpages.trans_eq (List.length_map _)
      topPages_eq := by
        have hall := sum_topRows_eq_iff rowLimit ((ofKind .pageview events).map Event.path)
        rwa [List.length_map] at hall
      entryPages_le := hentry.1
      entryPages_eq := hentry.2
      exitPages_le := hexit.1
      exitPages_eq := hexit.2
      breakdowns := isBreakdown_of_mem_breakdowns projectId start stop events interval
      bounceRate := Scalar.percent_mem_Icc List.countP_le_length
      conversionRate := Scalar.percent_mem_Icc List.countP_le_length }

end Build

end Report

end Footfall
