import Footfall.Funnel.Basic
import Footfall.Project
import Footfall.Series
import Footfall.Webhook.Delivery

/-!
# The store

The store keeps the tables of the service in memory: what is configured (projects, goals, funnels
and webhooks), the events, and the audit of deliveries. Tables keep the order of insertion. Parts
of the store may be out of order, and then every operation on them fails.

* `Store` holds the tables; `Store.guarded` runs an operation on a part that works.
* `Store.insert` gives events their numbers, which are never reused.
* `Store.select` and `Store.groupCount` read the events of a project and a range.
-/

namespace Footfall

/-- A part of the store that can be out of order. -/
inductive StorePart where
  /-- The answer that the store is there. -/
  | ping
  /-- Events, and reading funnels. -/
  | events
  | projects
  | goals
  /-- Creating funnels. -/
  | funnels
  | webhooks
  | deliveries
  deriving DecidableEq, Repr

/-- An operation on a part that is out of order. -/
structure StoreFailure where
  deriving DecidableEq, Repr

/-- The wording of a failure. -/
def StoreFailure.message (_ : StoreFailure) : String := "store failed"

/-- The tables of the service. -/
structure Store where
  projects : List Project := []
  goals : List Goal := []
  funnels : List Funnel := []
  webhooks : List Webhook := []
  deliveries : List DeliveryRecord := []
  events : List Event := []
  /-- The number given to the latest event. -/
  latestId : Nat := 0
  /-- The parts that are out of order. -/
  failing : List StorePart := []

namespace Store

/-- The value of a read, unless the part is out of order. -/
def guarded {α : Type} (s : Store) (part : StorePart) (value : α) : Except StoreFailure α :=
  if s.failing.contains part then .error ⟨⟩ else .ok value

/-- Is the store there? -/
def ping (s : Store) : Except StoreFailure Unit := s.guarded .ping ()

/-! ## What is configured -/

/-- All projects. -/
def allProjects (s : Store) : Except StoreFailure (List Project) := s.guarded .projects s.projects

/-- The project with an identifier. -/
def project? (s : Store) (id : String) : Except StoreFailure (Option Project) :=
  s.guarded .projects (s.projects.find? fun p => p.id == id)

/-- The project that an API key belongs to. -/
def projectOfKey? (s : Store) (key : String) : Except StoreFailure (Option Project) :=
  s.guarded .projects (s.projects.find? fun p => p.apiKey == key)

/-- The active goals of a project. -/
def activeGoals (s : Store) (projectId : String) : Except StoreFailure (List Goal) :=
  s.guarded .goals (s.goals.filter fun g => g.projectId == projectId && g.active)

/-- The active webhooks of a project. -/
def activeWebhooks (s : Store) (projectId : String) : Except StoreFailure (List Webhook) :=
  s.guarded .webhooks (s.webhooks.filter fun w => w.projectId == projectId && w.active)

/-- A funnel of a project. -/
def funnel? (s : Store) (projectId id : String) : Except StoreFailure (Option Funnel) :=
  s.guarded .events (s.funnels.find? fun f => f.id == id && f.projectId == projectId)

/-! ## Events -/

/-- Add an event under the next number. -/
def addEvent (s : Store) (e : Event) : Store :=
  { s with events := s.events ++ [{ e with id := s.latestId + 1 }], latestId := s.latestId + 1 }

/-- Store an event, and give its number. -/
def insert (s : Store) (e : Event) : Except StoreFailure Int × Store :=
  if s.failing.contains .events then (.error ⟨⟩, s)
  else (.ok (s.latestId + 1 : Nat), s.addEvent e)

/-- Does the first event come before the second, by time and then by number? -/
def earlier (a b : Event) : Bool :=
  decide (a.createdAt < b.createdAt) || (a.createdAt == b.createdAt && decide (a.id ≤ b.id))

/-- The events of a project between two instants, both included, in order of time. -/
def eventsBetween (s : Store) (projectId : String) (start stop : Timestamp) : List Event :=
  let own := s.events.filter fun e =>
    e.projectId == projectId && decide (start ≤ e.createdAt) && decide (e.createdAt ≤ stop)
  own.mergeSort earlier

/-- Read the events of a project between two instants. -/
def select (s : Store) (projectId : String) (start stop : Timestamp) :
    Except StoreFailure (List Event) :=
  s.guarded .events (s.eventsBetween projectId start stop)

/-- The counts of a bucket over page views. -/
def bucketCount (width : Granularity) (views : List Event) (bucket : Timestamp) : GroupCount :=
  let own := views.filter fun e => width.bucket e.createdAt = bucket
  ⟨bucket, own.length, (distinct (own.map (·.visitorHash))).length⟩

/-- The counts of the page views of a list by buckets, in order of time. -/
def countsOf (width : Granularity) (events : List Event) : List GroupCount :=
  let views := events.filter fun e => e.kind = .pageview
  let buckets := distinct (views.map fun e => width.bucket e.createdAt)
  sortBy GroupCount.bucket (buckets.map (bucketCount width views))

/-- Read the counts of page views between two instants. -/
def groupCount (s : Store) (projectId : String) (start stop : Timestamp) (width : Granularity) :
    Except StoreFailure (List GroupCount) :=
  s.guarded .events (countsOf width (s.eventsBetween projectId start stop))

/-- Remove the events that satisfy a condition, and count them. -/
def removeEvents (s : Store) (p : Event → Bool) : Except StoreFailure Nat × Store :=
  if s.failing.contains .events then (.error ⟨⟩, s)
  else (.ok (s.events.countP p), { s with events := s.events.filter fun e => !p e })

/-- Remove the events before an instant. -/
def deleteBefore (s : Store) (cutoff : Timestamp) : Except StoreFailure Nat × Store :=
  s.removeEvents fun e => decide (e.createdAt < cutoff)

/-- Remove the events of a project. -/
def deleteProject (s : Store) (projectId : String) : Except StoreFailure Nat × Store :=
  s.removeEvents fun e => e.projectId == projectId

end Store

end Footfall
