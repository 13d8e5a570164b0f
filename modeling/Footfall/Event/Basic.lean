import Footfall.Error
import Footfall.Text.Quoted
import Footfall.Time.Timestamp

/-!
# Events

An event is one thing that a visitor did, as it is stored. Its kind decides which of its optional
fields mean something: only custom events have a name, only scrolls a depth, and so on.

* `EventKind` is the kind, with its name in both directions (`EventKind.name`, `EventKind.parse`).
* `Location` is where a client is, as far as it is known.
* `Event` is the stored event; `Event.bare` has no optional field.
-/

namespace Footfall

/-- The kind of an event. -/
inductive EventKind where
  | pageview
  | heartbeat
  | custom
  | scroll
  | outbound
  | download
  deriving DecidableEq, Repr, Inhabited

namespace EventKind

/-- The name of a kind, which is its form on the wire and in storage. -/
def name : EventKind → String
  | .pageview => "pageview"
  | .heartbeat => "heartbeat"
  | .custom => "custom"
  | .scroll => "scroll"
  | .outbound => "outbound"
  | .download => "download"

/-- All kinds. -/
def all : List EventKind := [.pageview, .heartbeat, .custom, .scroll, .outbound, .download]

/-- The kind with the given name. -/
def ofName? (raw : String) : Option EventKind := all.find? fun k => k.name == raw

/-- The kind with the given name, or the error that there is none. -/
def parse (raw : String) : Except DomainError EventKind :=
  match ofName? raw with
  | some k => .ok k
  | none => .error (.invalidEvent ("unknown event type " ++ Text.quoted raw))

end EventKind

/-- Where a client is. Whatever is not known is absent. -/
structure Location where
  country : Option String := none
  city : Option String := none
  region : Option String := none
  latitude : Option Float := none
  longitude : Option Float := none

/-- A stored event. -/
structure Event where
  /-- Assigned by the store. -/
  id : Int := 0
  projectId : String
  kind : EventKind
  /-- The name of a custom event. -/
  eventName : Option String := none
  /-- The properties of an event as JSON text. -/
  properties : Option String := none
  path : String
  referrer : Option String := none
  utmSource : Option String := none
  utmMedium : Option String := none
  utmCampaign : Option String := none
  sessionId : String
  visitorHash : String
  browser : Option String := none
  os : Option String := none
  device : Option String := none
  country : Option String := none
  city : Option String := none
  region : Option String := none
  latitude : Option Float := none
  longitude : Option Float := none
  scrollDepth : Option Int := none
  targetUrl : Option String := none
  createdAt : Timestamp

/-- An event without any optional field. -/
def Event.bare (projectId : String) (kind : EventKind) (path sessionId visitorHash : String)
    (createdAt : Timestamp) : Event :=
  { projectId, kind, path, sessionId, visitorHash, createdAt }

end Footfall
