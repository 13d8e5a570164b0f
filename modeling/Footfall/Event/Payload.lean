import Footfall.Event.Basic
import Footfall.Json.Value
import Footfall.Json.Writer

/-!
# Payloads

A payload is what a tracker sends about one event. It is valid when it has a path and a session,
and a name exactly if the event is a custom one; `Payload.validate` reports the first rule that is
broken.
-/

namespace Footfall

/-- What a tracker sends about one event. -/
structure Payload where
  path : String
  referrer : Option String := none
  sessionId : String
  kind : EventKind
  eventName : Option String := none
  /-- Free-form data that belongs to the event. -/
  properties : Option Json.Value := none
  browser : Option String := none
  os : Option String := none
  device : Option String := none
  utmSource : Option String := none
  utmMedium : Option String := none
  utmCampaign : Option String := none
  scrollDepth : Option Int := none
  targetUrl : Option String := none

/-- The rule that a payload breaks. -/
inductive PayloadError where
  | missingPath
  | missingSession
  | missingName
  | unexpectedName
  deriving DecidableEq, Repr

/-- The wording of a broken rule. -/
def PayloadError.message : PayloadError → String
  | .missingPath => "path is required"
  | .missingSession => "sessionId is required"
  | .missingName => "eventName is required for custom events"
  | .unexpectedName => "eventName is only allowed for custom events"

namespace Payload

/-- Is there a name with anything but blanks in it? -/
def hasName (p : Payload) : Bool :=
  match p.eventName with
  | some n => !Text.isBlankText n
  | none => false

/-- The first rule that a payload breaks, if any. -/
def validate (p : Payload) : Except PayloadError Unit :=
  if Text.isBlankText p.path then .error .missingPath
  else if Text.isBlankText p.sessionId then .error .missingSession
  else
    match decide (p.kind = .custom), p.hasName with
    | true, false => .error .missingName
    | false, true => .error .unexpectedName
    | _, _ => .ok ()

/-- The properties as they are stored: their compact text. Null properties count as none. -/
def storedProperties (p : Payload) : Option String :=
  (p.properties.filter fun v => !v.isNull).map Json.compactText

/-- A payload as JSON; absent fields are null. -/
def toJson (p : Payload) : Json.Value :=
  .ofFields
    [ ("path", .string p.path),
      ("referrer", .ofText? p.referrer),
      ("sessionId", .string p.sessionId),
      ("type", .string p.kind.name),
      ("eventName", .ofText? p.eventName),
      ("properties", p.properties.getD .null),
      ("browser", .ofText? p.browser),
      ("os", .ofText? p.os),
      ("device", .ofText? p.device),
      ("utmSource", .ofText? p.utmSource),
      ("utmMedium", .ofText? p.utmMedium),
      ("utmCampaign", .ofText? p.utmCampaign),
      ("scrollDepth", (p.scrollDepth.map Json.Value.int).getD .null),
      ("targetUrl", .ofText? p.targetUrl) ]

end Payload

end Footfall
