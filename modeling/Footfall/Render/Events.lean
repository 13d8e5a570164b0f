import Footfall.Event.Basic
import Footfall.Json.Value

/-!
# Stored events as JSON

An event with all its fields; those that are absent are null.
-/

namespace Footfall

open Json (Value)

/-- An optional number as JSON. -/
def coordinateJson : Option Float → Value
  | some x => .ofFloat x
  | none => .null

/-- A location as JSON. -/
def Location.toJson (l : Location) : Value :=
  .ofFields
    [ ("country", .ofText? l.country),
      ("city", .ofText? l.city),
      ("region", .ofText? l.region),
      ("latitude", coordinateJson l.latitude),
      ("longitude", coordinateJson l.longitude) ]

/-- An event as JSON. -/
def Event.toJson (e : Event) : Value :=
  .ofFields
    [ ("id", .int e.id),
      ("project_id", .string e.projectId),
      ("kind", .string e.kind.name),
      ("event_name", .ofText? e.eventName),
      ("properties", .ofText? e.properties),
      ("path", .string e.path),
      ("referrer", .ofText? e.referrer),
      ("utm_source", .ofText? e.utmSource),
      ("utm_medium", .ofText? e.utmMedium),
      ("utm_campaign", .ofText? e.utmCampaign),
      ("session_id", .string e.sessionId),
      ("visitor_hash", .string e.visitorHash),
      ("browser", .ofText? e.browser),
      ("os", .ofText? e.os),
      ("device", .ofText? e.device),
      ("country", .ofText? e.country),
      ("city", .ofText? e.city),
      ("region", .ofText? e.region),
      ("latitude", coordinateJson e.latitude),
      ("longitude", coordinateJson e.longitude),
      ("scroll_depth", (e.scrollDepth.map Value.int).getD .null),
      ("target_url", .ofText? e.targetUrl),
      ("created_at", .string e.createdAt.zoned) ]

end Footfall
