import Footfall.Scalar
import Footfall.Session

/-!
# Goals

A goal is met by an event: a goal on a URL by the page view of a path, a goal on an event by a
custom event of a name. The type of a goal is stored as text; a text that names no type is no
error, such a goal is just never met.

* `Criterion` is the type of a goal, `Criterion.parse` reads it, and `Criterion.accepts` decides
  whether an event meets it.
* `Goal.conversions` counts the sessions that meet a goal. There a path may be that of any event.
-/

namespace Footfall

/-- What a goal or a step of a funnel looks at. -/
inductive Criterion where
  /-- The page view of a path. -/
  | url
  /-- A custom event of a name. -/
  | event
  deriving DecidableEq, Repr

namespace Criterion

/-- The criterion that a text names. -/
def parse (raw : String) : Option Criterion :=
  let name := Text.trim raw
  if name = "url" then some .url else if name = "event" then some .event else none

/-- The name of a criterion. -/
def name : Criterion → String
  | .url => "url"
  | .event => "event"

/-- Does what is known of an event meet the criterion? -/
def accepts (c : Criterion) (kind : EventKind) (eventName : Option String) (path value : String) :
    Bool :=
  match c with
  | .url => kind == .pageview && path == value
  | .event => kind == .custom && eventName == some value

/-- Does an event meet the criterion? -/
def meets (c : Criterion) (value : String) (e : Event) : Bool :=
  c.accepts e.kind e.eventName e.path value

/-- Does an event meet the criterion, if a path may be that of an event of any kind? -/
def meetsLoosely (c : Criterion) (value : String) (e : Event) : Bool :=
  match c with
  | .url => e.path == value
  | .event => e.kind == .custom && e.eventName == some value

end Criterion

/-- A goal of a project. -/
structure Goal where
  id : String
  projectId : String
  name : String
  /-- The name of a criterion, as it was given. -/
  goalType : String
  matchValue : String
  active : Bool
  deriving DecidableEq, Repr

/-- The criterion of a goal, absent when its type names none. -/
def Goal.criterion (g : Goal) : Option Criterion := Criterion.parse g.goalType

/-- How many sessions met a goal, and their share in percent. -/
structure Conversions (α : Type) where
  conversions : Nat
  rate : α

/-- The sessions of a list of events with an event that meets the goal. -/
def Goal.conversions {α : Type} [Scalar α] (goalType matchValue : String) (events : List Event) :
    Conversions α :=
  match Criterion.parse goalType with
  | none => ⟨0, Scalar.ofNat 0⟩
  | some c =>
    let sessions := Session.group events
    let converting := sessions.countP fun s => s.events.any (c.meetsLoosely matchValue)
    ⟨converting, Scalar.percent converting sessions.length⟩

end Footfall
