import Footfall.Text.Split

/-!
# Routes

The paths that the service answers. The figures of a project are below the path of the project;
its identifier is one segment of the path, and so is that of a funnel.
-/

namespace Footfall

/-- The figures of a project. -/
inductive Figure where
  | report
  | timeSeries
  | calendar
  /-- The funnel with an identifier, as the path writes it. -/
  | funnel (id : List Char)
  | goalConversions
  | revenue
  | revenueByEvent
  | revenueBySource
  deriving DecidableEq, Repr

/-- What a path leads to. -/
inductive Route where
  | health
  | collect
  /-- A figure of the project with an identifier, as the path writes it. -/
  | figure (projectId : List Char) (figure : Figure)
  deriving DecidableEq, Repr

/-- The figure at the rest of a path below a project. -/
def Figure.ofSegments : List String → Option Figure
  | ["report"] => some .report
  | ["timeseries"] => some .timeSeries
  | ["calendar"] => some .calendar
  | ["funnels", id] => if id.isEmpty then none else some (.funnel id.toList)
  | ["goals", "conversions"] => some .goalConversions
  | ["revenue"] => some .revenue
  | ["revenue", "events"] => some .revenueByEvent
  | ["revenue", "sources"] => some .revenueBySource
  | _ => none

namespace Route

/-- The route of the segments of a path. -/
def ofSegments : List String → Option Route
  | ["", "health"] => some .health
  | ["", "api", "collect"] => some .collect
  | "" :: "api" :: "projects" :: id :: rest =>
    (Figure.ofSegments rest).map (.figure id.toList)
  | _ => none

/-- The route of a path. -/
def ofPath (path : List Char) : Option Route :=
  ofSegments ((Text.splitBy (· == '/') path).map String.ofList)

/-- The methods that a route answers, as they are listed in a header. -/
def methods : Route → String
  | .health => "GET,HEAD"
  | .collect => "POST"
  | .figure _ _ => "GET,HEAD"

/-- Does a route answer a method? -/
def answers : Route → String → Bool
  | .collect, method => method == "POST"
  | .health, method => method == "GET" || method == "HEAD"
  | .figure _ _, method => method == "GET" || method == "HEAD"

end Route

end Footfall
