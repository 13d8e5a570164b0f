import Footfall.Event.Basic
import Footfall.Gathering
import Footfall.Ranking

/-!
# Sessions

A session is what one visitor did in one visit. Sessions are not stored: the events of a list are
grouped by their session identifier. Sessions come in the order of their first appearance in the
list, and the events of a session in the order of time, equal times keeping the order of the list.

* `Session.group` is the grouping. The session that an identifier gets is `Session.ofId`.
* `Session.isBounce`, `Session.entryPage` and `Session.exitPage` describe a visit.
-/

namespace Footfall

/-- The events with one session identifier, in order of time. -/
structure Session where
  id : String
  events : List Event

namespace Session

/-- The session identifiers of a list of events, in order of first appearance. -/
def ids (events : List Event) : List String := distinct (events.map (·.sessionId))

/-- Events in order of time; equal times keep their order. -/
def inTime (events : List Event) : List Event := sortBy Event.createdAt events

/-- The events of a list with one session identifier, in order of time. -/
def ofId (events : List Event) (id : String) : Session :=
  ⟨id, inTime (events.filter fun e => e.sessionId = id)⟩

/-- A session with one more event. -/
def add (s : Session) (e : Event) : Session := { s with events := s.events ++ [e] }

/-- The sessions of a list of events: the events are gathered in one pass, and then those of each
session are put into the order of time. -/
def group (events : List Event) : List Session :=
  (gather Event.sessionId (fun id => ⟨id, []⟩) add events).map fun s =>
    { s with events := inTime s.events }

/-- The earliest event. -/
def first? (s : Session) : Option Event := s.events.head?

/-- The number of heartbeats. -/
def heartbeats (s : Session) : Nat := s.events.countP fun e => e.kind = .heartbeat

/-- The number of different paths. -/
def distinctPaths (s : Session) : Nat := (distinct (s.events.map (·.path))).length

/-- A visit of a single path without any heartbeat. -/
def isBounce (s : Session) : Bool := s.distinctPaths == 1 && s.heartbeats == 0

/-- The path of the first page view. -/
def entryPage (s : Session) : Option String :=
  (s.events.find? fun e => e.kind = .pageview).map (·.path)

/-- The path of the last page view. -/
def exitPage (s : Session) : Option String :=
  (s.events.reverse.find? fun e => e.kind = .pageview).map (·.path)

/-- Has the session a custom event? -/
def converts (s : Session) : Bool := s.events.any fun e => e.kind = .custom

end Session

end Footfall
