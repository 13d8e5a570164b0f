import Footfall.Funnel.Analysis
import Footfall.Json.Value
import Footfall.Report.Basic
import Footfall.Revenue.Basic
import Footfall.Series

/-!
# Figures as JSON

The reports of the service in the form in which requests are answered. Instants are written in
universal time and computed numbers that are not finite as null.
-/

namespace Footfall

open Json (Value)

/-- An optional computed number as JSON. -/
def ofFloat? : Option Float → Value
  | some x => .ofFloat x
  | none => .null

/-! ## The dashboard report -/

/-- A row of a breakdown as JSON. -/
def Row.toJson (r : Row) : Value :=
  .ofFields [("label", .string r.label), ("count", .int r.count)]

/-- A breakdown as JSON. -/
def rowsJson (rows : List Row) : Value := .array (rows.map Row.toJson)

/-- A recent event as JSON. -/
def RecentEvent.toJson (e : RecentEvent) : Value :=
  .ofFields
    [ ("kind", .string e.kind.name),
      ("event_name", .ofText? e.eventName),
      ("path", .string e.path),
      ("city", .ofText? e.city),
      ("country", .ofText? e.country),
      ("created_at", .string e.createdAt.zoned) ]

/-- The figures of sessions as JSON. -/
def SessionMetrics.toJson (m : SessionMetrics Float) : Value :=
  .ofFields
    [ ("total_sessions", .int m.total),
      ("avg_session_duration_seconds", .ofFloat m.averageSeconds),
      ("entry_pages", rowsJson m.entryPages),
      ("exit_pages", rowsJson m.exitPages) ]

/-- An hour with its total as JSON. -/
def hourJson (p : Peak 24) : Value :=
  .ofFields [("hour", .int p.index.val), ("count", .int p.total)]

/-- A day with its total as JSON. -/
def dayJson (p : Peak 7) : Value :=
  .ofFields
    [("day", .int p.index.val), ("name", .string (dayName p.index)), ("count", .int p.total)]

/-- The peaks as JSON. -/
def Peaks.toJson (p : Peaks) : Value :=
  .ofFields
    [ ("top_hours", .array (p.hours.map hourJson)),
      ("top_days", .array (p.days.map dayJson)),
      ("peak_hour", (p.hour?.map hourJson).getD .null),
      ("peak_day", (p.day?.map dayJson).getD .null) ]

/-- The heatmap as JSON, a list of hours for each day. -/
def Heatmap.toJson (m : Heatmap) : Value :=
  .array ((List.finRange 7).map fun d => .array ((List.finRange 24).map fun h => .int (m d h)))

/-- The dashboard report as JSON. -/
def Report.toJson (r : Report Float) : Value :=
  .ofFields
    [ ("project_id", .string r.projectId),
      ("start", .string r.start.zoned),
      ("end", .string r.stop.zoned),
      ("total_events", .int r.totalEvents),
      ("pageviews", .int r.pageviews),
      ("unique_visitors", .int r.uniqueVisitors),
      ("bounce_rate", .ofFloat r.bounceRate),
      ("conversion_rate", .ofFloat r.conversionRate),
      ("sessions", r.sessions.toJson),
      ("top_pages", rowsJson r.topPages),
      ("browsers", rowsJson r.browsers),
      ("operating_systems", rowsJson r.operatingSystems),
      ("devices", rowsJson r.devices),
      ("referrers", rowsJson r.referrers),
      ("countries", rowsJson r.countries),
      ("regions", rowsJson r.regions),
      ("utm_sources", rowsJson r.utmSources),
      ("utm_mediums", rowsJson r.utmMediums),
      ("utm_campaigns", rowsJson r.utmCampaigns),
      ("custom_events", rowsJson r.customEvents),
      ("scroll_depths", rowsJson r.scrollDepths),
      ("outbound_links", rowsJson r.outboundLinks),
      ("downloads", rowsJson r.downloads),
      ("heatmap", r.heatmap.toJson),
      ("peak_times", r.peaks.toJson),
      ("recent_events", .array (r.recentEvents.map RecentEvent.toJson)) ]

/-! ## Series and calendar -/

/-- A point of a time series as JSON. -/
def GroupCount.toJson (c : GroupCount) : Value :=
  .ofFields
    [ ("bucket", .string c.bucket.localText),
      ("views", .int c.events),
      ("unique_visitors", .int c.visitors) ]

/-- A day of the calendar as JSON. -/
def CalendarDay.toJson (d : CalendarDay) : Value :=
  .ofFields
    [ ("date", .string (String.ofList d.date.text)),
      ("visits", .int d.visits),
      ("unique_visitors", .int d.uniqueVisitors),
      ("level", .int d.level) ]

/-! ## Goals and funnels -/

/-- The conversions of a goal as JSON. -/
def Conversions.toJson (c : Conversions Float) : Value :=
  .ofFields [("conversions", .int c.conversions), ("conversion_rate", .ofFloat c.rate)]

/-- The result of a step as JSON. -/
def StepResult.toJson (s : StepResult Float) : Value :=
  .ofFields
    [ ("step_number", .int s.number),
      ("label", .string s.label),
      ("sessions", .int s.sessions),
      ("conversion_rate", .ofFloat s.conversionRate),
      ("drop_off_rate", .ofFloat s.dropOffRate),
      ("avg_seconds_from_previous", ofFloat? s.secondsFromPrevious) ]

/-- The result of a funnel as JSON. -/
def FunnelAnalysis.toJson (a : FunnelAnalysis Float) : Value :=
  .ofFields
    [ ("funnel_id", .string a.funnelId),
      ("name", .string a.name),
      ("total_sessions", .int a.totalSessions),
      ("steps", .array (a.steps.map StepResult.toJson)) ]

/-! ## Revenue -/

namespace Revenue

/-- The totals of a range as JSON. -/
def Metrics.toJson (m : Metrics) : Value :=
  .ofFields
    [ ("total_revenue", .ofFloat m.totalRevenue),
      ("transactions", .int m.transactions),
      ("average_order_value", .ofFloat m.averageOrderValue),
      ("revenue_per_visitor", .ofFloat m.revenuePerVisitor),
      ("unique_visitors", .int m.uniqueVisitors) ]

/-- The totals of two ranges as JSON. -/
def Summary.toJson (s : Summary) : Value :=
  .ofFields
    [ ("current", s.current.toJson),
      ("previous", s.previous.toJson),
      ("revenue_change", ofFloat? s.revenueChange) ]

/-- The revenue of an event name as JSON. -/
def EventRow.toJson (r : EventRow Float) : Value :=
  .ofFields
    [ ("event_name", .string r.name),
      ("revenue", .ofFloat r.revenue),
      ("transactions", .int r.transactions) ]

/-- The revenue of a source as JSON. -/
def SourceRow.toJson (r : SourceRow Float) : Value :=
  .ofFields
    [ ("source", .string r.source),
      ("revenue", .ofFloat r.revenue),
      ("transactions", .int r.transactions),
      ("sessions", .int r.sessions),
      ("converting_sessions", .int r.convertingSessions),
      ("conversion_rate", .ofFloat r.conversionRate) ]

end Revenue

end Footfall
