import Footfall.Event.Referrer
import Footfall.Report.Heatmap
import Footfall.Scalar
import Footfall.Session
import Footfall.Text.Lowercase

/-!
# The dashboard report

The report of a project over a range of time, computed from the events of that range. Breakdowns
list at most ten labels; blank values are passed over, and campaign values also when they only say
`unknown`.

* `Report` is the report, over the numbers in which its rates are given.
* `Report.build` computes it.
-/

namespace Footfall

/-- One of the latest events, without what identifies the visitor. -/
structure RecentEvent where
  kind : EventKind
  eventName : Option String
  path : String
  city : Option String
  country : Option String
  createdAt : Timestamp
  deriving DecidableEq, Repr

/-- The figures of the sessions. -/
structure SessionMetrics (α : Type) where
  total : Nat
  averageSeconds : α
  entryPages : List Row
  exitPages : List Row

/-- The dashboard report of a project. -/
structure Report (α : Type) where
  projectId : String
  start : Timestamp
  stop : Timestamp
  totalEvents : Nat
  pageviews : Nat
  uniqueVisitors : Nat
  /-- The sessions of a single page in percent. -/
  bounceRate : α
  /-- The sessions with a custom event in percent. -/
  conversionRate : α
  sessions : SessionMetrics α
  topPages : List Row
  browsers : List Row
  operatingSystems : List Row
  devices : List Row
  referrers : List Row
  countries : List Row
  regions : List Row
  utmSources : List Row
  utmMediums : List Row
  utmCampaigns : List Row
  customEvents : List Row
  scrollDepths : List Row
  outboundLinks : List Row
  downloads : List Row
  heatmap : Heatmap
  peaks : Peaks
  recentEvents : List RecentEvent

namespace Report

/-- The number of rows of a breakdown, and of recent events. -/
def rowLimit : Nat := 10

/-- A campaign value, absent when it is blank or only says that it is unknown. -/
def campaignValue (v : Option String) : Option String :=
  (Text.present v).filter fun s => !Text.equalIgnoringAsciiCase s "unknown"

/-- The events of a kind. -/
def ofKind (kind : EventKind) (events : List Event) : List Event :=
  events.filter fun e => e.kind = kind

/-- A breakdown by a label that not every event has. -/
def breakdown (label : Event → Option String) (events : List Event) : List Row :=
  topRows rowLimit (events.filterMap label)

/-- The region of an event together with its country, if both are known. -/
def regionLabel (e : Event) : Option String := do
  let region ← Text.present e.region
  let country ← Text.present e.country
  return region ++ ", " ++ country

/-- The depths of scroll events in ascending order, each with its count. -/
def scrollRows (events : List Event) : List Row :=
  let depths := (ofKind .scroll events).filterMap Event.scrollDepth
  ((sortBy Prod.fst (tally depths)).take rowLimit).map fun (d, n) => ⟨toString d ++ "%", n⟩

/-- Does the first event come before the second in the list of recent events? -/
def moreRecent (a b : Event) : Bool :=
  decide (b.createdAt < a.createdAt) || (a.createdAt == b.createdAt && decide (b.id ≤ a.id))

/-- The latest events, the latest first. -/
def recent (events : List Event) : List RecentEvent :=
  ((events.mergeSort moreRecent).take rowLimit).map fun e =>
    ⟨e.kind, e.eventName, e.path, e.city, e.country, e.createdAt⟩

/-- The number of different visitors. -/
def visitors (events : List Event) : Nat := (distinct (events.map (·.visitorHash))).length

variable {α : Type} [Scalar α]

/-- The mean length of sessions in seconds: every heartbeat stands for one interval. -/
def averageSeconds (interval heartbeats sessions : Nat) : α :=
  if sessions = 0 then Scalar.ofNat 0
  else Scalar.ofNat heartbeats * Scalar.ofNat interval / Scalar.ofNat sessions

/-- The report over the events of one project and range. -/
def build (projectId : String) (start stop : Timestamp) (events : List Event) (interval : Nat) :
    Report α :=
  let sessions := Session.group events
  let heatmap := Heatmap.ofEvents events
  let pages := ofKind .pageview events
  { projectId, start, stop
    totalEvents := events.length
    pageviews := pages.length
    uniqueVisitors := visitors events
    bounceRate := Scalar.percent (sessions.countP Session.isBounce) sessions.length
    conversionRate := Scalar.percent (sessions.countP Session.converts) sessions.length
    sessions :=
      { total := sessions.length
        averageSeconds :=
          averageSeconds interval (sessions.foldl (fun n s => n + s.heartbeats) 0) sessions.length
        entryPages := topRows rowLimit (sessions.filterMap Session.entryPage)
        exitPages := topRows rowLimit (sessions.filterMap Session.exitPage) }
    topPages := topRows rowLimit (pages.map Event.path)
    browsers := breakdown (fun e => Text.present e.browser) events
    operatingSystems := breakdown (fun e => Text.present e.os) events
    devices := breakdown (fun e => Text.present e.device) events
    referrers := breakdown (fun e => e.referrer.bind Referrer.domain) events
    countries := breakdown (fun e => Text.present e.country) events
    regions := breakdown regionLabel events
    utmSources := breakdown (fun e => campaignValue e.utmSource) events
    utmMediums := breakdown (fun e => campaignValue e.utmMedium) events
    utmCampaigns := breakdown (fun e => campaignValue e.utmCampaign) events
    customEvents := breakdown (fun e => Text.present e.eventName) (ofKind .custom events)
    scrollDepths := scrollRows events
    outboundLinks := breakdown (fun e => Text.present e.targetUrl) (ofKind .outbound events)
    downloads := breakdown (fun e => Text.present e.targetUrl) (ofKind .download events)
    heatmap
    peaks := heatmap.peaks
    recentEvents := recent events }

end Report

end Footfall
