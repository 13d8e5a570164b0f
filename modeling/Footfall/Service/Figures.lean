import Footfall.Http.Query
import Footfall.Render.Figures
import Footfall.Service.Collect
import Footfall.Service.Route

/-!
# The figures of a project

Every figure is answered only to the holder of the API key of its project. Most figures are over a
range of time, which is the last seven days unless the query says otherwise. Instants may lie
anywhere in the representable years, so that a range or the one before it may leave them; a
request for which that happens is given up without an answer.

* `Setback` is why there is no figure.
* `Service.authorize` is the check of the key.
* `TimeRange.resolve` is the range of a query.
* `Inquiry.read` is what path and query say about a figure.
* `Service.answer` computes it and writes it as JSON, `Service.figure` answers a request.
-/

namespace Footfall

/-- Why a request has no figure for an answer. -/
inductive Setback where
  | refused (cause : ServiceError)
  /-- The path or the query cannot be read. -/
  | unreadable (message : String)
  /-- Date arithmetic left the representable years. -/
  | outOfRange
  deriving DecidableEq, Repr

/-- An outcome of the store, as the outcome of a request. -/
def Setback.ofStore {α : Type} : Except StoreFailure α → Except Setback α
  | .ok a => .ok a
  | .error f => .error (.refused (.ofStore f))

/-- An outcome of reading the query, as the outcome of a request. -/
def Setback.ofQuery {α : Type} : Except Http.QueryError α → Except Setback α
  | .ok a => .ok a
  | .error e => .error (.unreadable e.message)

/-- An outcome of date arithmetic, as the outcome of a request. -/
def Setback.ofArithmetic {α : Type} : Option α → Except Setback α
  | some a => .ok a
  | none => .error .outOfRange

/-! ## Queries -/

/-- The range that a query asks for. -/
structure TimeRange where
  start : Option Timestamp
  stop : Option Timestamp

/-- The length of a range that does not say where it starts, in days. -/
def defaultRangeDays : Int := 7

/-- The range with its defaults. The default start has to exist even if another one is given. -/
def TimeRange.resolve (r : TimeRange) (now : Timestamp) :
    Except Setback (Timestamp × Timestamp) := do
  let stop := r.stop.getD now
  let defaultStart ←
    Setback.ofArithmetic (stop.shift? (-(defaultRangeDays * Timestamp.oneDay)))
  let start := r.start.getD defaultStart
  if stop < start then .error (.refused (.badRequest "start must not be after end"))
  else .ok (start, stop)

/-- The range of a query. -/
def TimeRange.read (ps : Http.Parameters) : Except Http.QueryError TimeRange := do
  let start ← ps.instant "start"
  let stop ← ps.instant "end"
  return ⟨start, stop⟩

/-- A segment of a path. -/
def readSegment (segment : List Char) : Except Setback String :=
  match Text.decodePath segment with
  | some s => .ok s
  | none => .error (.unreadable "the path is no text")

/-- The name of the range of a time series for which none is given. -/
def defaultFilter : String := "7d"

/-- A figure with what the path and the query say about it. -/
inductive Inquiry where
  | report (range : TimeRange)
  | timeSeries (filter : String)
  | calendar
  | funnel (id : String) (range : TimeRange)
  | goalConversions (goalType matchValue : String) (range : TimeRange)
  | revenue (range : TimeRange)
  | revenueByEvent (range : TimeRange)
  | revenueBySource (range : TimeRange)

/-- Read what the path and the query say about a figure. -/
def Inquiry.read (f : Figure) (ps : Http.Parameters) : Except Setback Inquiry :=
  match f with
  | .report => return .report (← Setback.ofQuery (TimeRange.read ps))
  | .timeSeries => do
    let filter ← Setback.ofQuery (ps.optional "filter")
    return .timeSeries (filter.getD defaultFilter)
  | .calendar => return .calendar
  | .funnel id => do
    let id ← readSegment id
    return .funnel id (← Setback.ofQuery (TimeRange.read ps))
  | .goalConversions => do
    let goalType ← Setback.ofQuery (ps.required "goal_type")
    let matchValue ← Setback.ofQuery (ps.required "match_value")
    return .goalConversions goalType matchValue (← Setback.ofQuery (TimeRange.read ps))
  | .revenue => return .revenue (← Setback.ofQuery (TimeRange.read ps))
  | .revenueByEvent => return .revenueByEvent (← Setback.ofQuery (TimeRange.read ps))
  | .revenueBySource => return .revenueBySource (← Setback.ofQuery (TimeRange.read ps))

/-! ## Figures -/

namespace Service

/-- The project with an identifier, for the holder of its key. -/
def authorize (s : Service) (projectId : String) (key : Option String) :
    Except Setback Project := do
  match ← Setback.ofStore (s.store.project? projectId) with
  | none => .error (.refused (.notFound ("project " ++ projectId ++ " not found")))
  | some project =>
    if key = some project.apiKey then .ok project else .error (.refused .unauthorized)

/-- The events of a project in a range. -/
def eventsIn (s : Service) (projectId : String) (range : Timestamp × Timestamp) :
    Except Setback (List Event) :=
  Setback.ofStore (s.store.select projectId range.1 range.2)

/-- The dashboard report. -/
def report (s : Service) (projectId : String) (range : Timestamp × Timestamp) :
    Except Setback (Report Float) := do
  let events ← s.eventsIn projectId range
  return Report.build projectId range.1 range.2 events s.settings.heartbeatSeconds

/-- The time series of a named range that ends now. -/
def timeSeries (s : Service) (projectId filter : String) (now : Timestamp) :
    Except Setback (List GroupCount) := do
  let filter ←
    match TimeFilter.parse filter with
    | .ok f => .ok f
    | .error e => .error (.refused (.ofDomain e))
  let (start, stop) ← Setback.ofArithmetic (filter.rangeEnding now)
  let counts ← Setback.ofStore (s.store.groupCount projectId start stop filter.granularity)
  return Footfall.timeSeries counts

/-- The calendar that ends today. -/
def calendar (s : Service) (projectId : String) (today : Date) :
    Except Setback (List CalendarDay) := do
  let (start, stop) ← Setback.ofArithmetic (calendarRange today)
  let counts ← Setback.ofStore (s.store.groupCount projectId start stop .day)
  Setback.ofArithmetic (Footfall.calendar Float today counts)

/-- The analysis of a funnel. A funnel without steps is analysed without its events. -/
def funnel (s : Service) (projectId funnelId : String) (range : Timestamp × Timestamp) :
    Except Setback (FunnelAnalysis Float) := do
  match ← Setback.ofStore (s.store.funnel? projectId funnelId) with
  | none => .error (.refused (.ofDomain (.notFound ("funnel " ++ funnelId))))
  | some f =>
    if f.steps.isEmpty then .ok f.emptyAnalysis
    else
      let events ← s.eventsIn projectId range
      return f.analyze events range.1

/-- The conversions of a goal. Those of a type that names no criterion are none, without a look
at the events. -/
def goalConversions (s : Service) (projectId goalType matchValue : String)
    (range : Timestamp × Timestamp) : Except Setback (Conversions Float) :=
  if (Criterion.parse goalType).isNone then .ok ⟨0, 0.0⟩
  else do
    let events ← s.eventsIn projectId range
    return Goal.conversions goalType matchValue events

/-- The revenue of a range and of the one before it. -/
def revenue (s : Service) (projectId : String) (range : Timestamp × Timestamp) :
    Except Setback Revenue.Summary := do
  let current ← s.eventsIn projectId range
  let previousRange ← Setback.ofArithmetic (previousPeriod range.1 range.2)
  let previous ← s.eventsIn projectId previousRange
  return Revenue.summarize current previous

/-- Answer an inquiry about a project at an instant. -/
def answer (s : Service) (projectId : String) (now : Timestamp) :
    Inquiry → Except Setback Json.Value
  | .report range => do
    return (← s.report projectId (← range.resolve now)).toJson
  | .timeSeries filter => do
    return .array ((← s.timeSeries projectId filter now).map GroupCount.toJson)
  | .calendar => do
    return .array ((← s.calendar projectId now.date).map CalendarDay.toJson)
  | .funnel id range => do
    return (← s.funnel projectId id (← range.resolve now)).toJson
  | .goalConversions goalType matchValue range => do
    return (← s.goalConversions projectId goalType matchValue (← range.resolve now)).toJson
  | .revenue range => do
    return (← s.revenue projectId (← range.resolve now)).toJson
  | .revenueByEvent range => do
    let events ← s.eventsIn projectId (← range.resolve now)
    return .array ((Revenue.byEvent events).map Revenue.EventRow.toJson)
  | .revenueBySource range => do
    let events ← s.eventsIn projectId (← range.resolve now)
    return .array ((Revenue.bySource events).map Revenue.SourceRow.toJson)

/-- Answer a request for a figure: read path and query, check the key, compute. -/
def figure (s : Service) (now : Timestamp) (r : Http.Request) (projectId : List Char)
    (f : Figure) : Except Setback Json.Value := do
  let id ← readSegment projectId
  let key ← Setback.ofQuery (r.parameters.optional keyParameter)
  let inquiry ← Inquiry.read f r.parameters
  let _ ← s.authorize id (apiKey r key)
  s.answer id now inquiry

end Service

end Footfall
