import Footfall.Cache
import Footfall.Goal.Basic
import Footfall.Store.Basic
import Footfall.Traffic.Detector
import Footfall.Webhook.Queue

/-!
# Detecting what webhooks are told about

Every stored event is checked against the goals of its project and counted by the spike detector;
the webhooks that subscribe to what it brings about get a job each. Goals and webhooks are read
through caches that keep them for a minute, so that a change in the store shows after a minute at
the latest, or at once after the project was invalidated. A read that fails is not kept.

* `Sighting` is what is looked at of an event.
* `Watcher` holds the caches and the spike detector.
* `Watcher.offers` lists the jobs that an event gives rise to, in order; `Watcher.offersAt` does so
  for an event of another instant than the clock reads.
-/

namespace Footfall

/-- What is looked at of a stored event. -/
structure Sighting where
  projectId : String
  kind : EventKind
  eventName : Option String
  path : String
  deriving DecidableEq, Repr

/-- What is looked at of an event. -/
def Event.sighting (e : Event) : Sighting := ⟨e.projectId, e.kind, e.eventName, e.path⟩

/-- Does what was seen meet a criterion? -/
def Sighting.meets (s : Sighting) (c : Criterion) (value : String) : Bool :=
  c.accepts s.kind s.eventName s.path value

/-- How webhooks and goals of a project are looked up. -/
structure Lookup where
  webhooks : String → Except StoreFailure (List Webhook)
  goals : String → Except StoreFailure (List Goal)

/-- The lookups in a store. -/
def Store.lookup (s : Store) : Lookup := ⟨s.activeWebhooks, s.activeGoals⟩

/-! ## Payloads -/

/-- What all payloads of an event have in common: the wall clock, and names for payloads that are
never used twice. -/
structure Stamp where
  wall : Timestamp
  payloadId : Nat → String

/-- A payload with its data. -/
def envelope (stamp : Stamp) (n : Nat) (topic : Topic) (data : Json.Value) : Json.Value :=
  .ofFields
    [ ("id", .string (stamp.payloadId n)),
      ("event", .string topic.name),
      ("created_at", .string stamp.wall.withOffset),
      ("data", data) ]

/-- The data of a payload about a goal. -/
def goalData (g : Goal) (c : Criterion) (s : Sighting) : Json.Value :=
  .ofFields
    [ ("project_id", .string s.projectId),
      ("goal_id", .string g.id),
      ("goal_name", .string g.name),
      ("goal_type", .string c.name),
      match c with
      | .url => ("path", .string s.path)
      | .event => ("event_name", .ofText? s.eventName) ]

/-- The data of a payload about a spike. -/
def spikeData (s : Traffic.Spike Float) : Json.Value :=
  .ofFields
    [ ("project_id", .string s.projectId),
      ("current_rate", .ofFloat s.currentRate),
      ("baseline_rate", .ofFloat s.baselineRate),
      ("event_count", .int s.eventCount),
      ("window_seconds", .int s.windowSeconds) ]

/-- The job that brings a payload to a webhook. -/
def Webhook.job (w : Webhook) (topic : Topic) (payload : Json.Value) : Job :=
  ⟨w.id, w.url, w.secret, topic, payload⟩

/-- The criterion by which an event meets a goal, if it does. -/
def Goal.metBy (g : Goal) (s : Sighting) : Option Criterion :=
  g.criterion.filter fun c => s.meets c g.matchValue

/-- The jobs for the goals that an event meets: goal by goal, one job for each subscriber. The
payloads are numbered in order. -/
def goalJobs (stamp : Stamp) (hooks : List Webhook) (goals : List Goal) (s : Sighting) : List Job :=
  let met := goals.filterMap fun g => (g.metBy s).map fun c => goalData g c s
  met.zipIdx.flatMap fun (data, n) =>
    hooks.map fun w => w.job .goalConversion (envelope stamp n .goalConversion data)

/-- The jobs for a spike, one for each subscriber. Its payload follows those of the goals. -/
def spikeJobs (stamp : Stamp) (n : Nat) (hooks : List Webhook) (spike : Traffic.Spike Float) :
    List Job :=
  hooks.map fun w => w.job .trafficSpike (envelope stamp n .trafficSpike (spikeData spike))

/-! ## The watcher -/

/-- The caches of webhooks and goals, and the spike detector. -/
structure Watcher where
  webhooks : Cache String (List Webhook)
  goals : Cache String (List Goal)
  spikes : Traffic.Detector Float

namespace Watcher

/-- What is read from the store is kept for a minute, in nanoseconds. -/
def timeToLive : Nat := 60 * 1000000000

/-- The most projects whose webhooks or goals are kept. -/
def maxProjects : Nat := 10000

/-- A watcher that has seen nothing. -/
def new : Watcher :=
  { webhooks := Cache.empty (.afterWrite timeToLive) maxProjects
    goals := Cache.empty (.afterWrite timeToLive) maxProjects
    spikes := Traffic.Detector.new }

/-- The active webhooks of a project, through the cache. -/
def activeWebhooks (w : Watcher) (lookup : Lookup) (projectId : String) (clock : Moment) :
    Except StoreFailure (List Webhook) × Watcher :=
  let (result, webhooks) :=
    w.webhooks.getOrCompute projectId (fun _ => lookup.webhooks projectId) clock
  (result.map (·.1), { w with webhooks })

/-- The active goals of a project, through the cache. -/
def activeGoals (w : Watcher) (lookup : Lookup) (projectId : String) (clock : Moment) :
    Except StoreFailure (List Goal) × Watcher :=
  let (result, goals) := w.goals.getOrCompute projectId (fun _ => lookup.goals projectId) clock
  (result.map (·.1), { w with goals })

/-- The jobs of the goal subscribers among some webhooks. Goals are read only if there are any
subscribers; when they cannot be read there are no jobs. -/
def goalOffers (w : Watcher) (lookup : Lookup) (stamp : Stamp) (hooks : List Webhook)
    (s : Sighting) (clock : Moment) : List Job × Watcher :=
  let subscribers := Webhook.subscribers hooks .goalConversion
  if subscribers.isEmpty then ([], w)
  else
    match w.activeGoals lookup s.projectId clock with
    | (.error _, w) => ([], w)
    | (.ok goals, w) => (goalJobs stamp subscribers goals s, w)

/-- The jobs of the spike subscribers among some webhooks. The event is counted only if there are
any subscribers. -/
def spikeOffers (w : Watcher) (stamp : Stamp) (n : Nat) (hooks : List Webhook) (s : Sighting)
    (clock now : Moment) : List Job × Watcher :=
  let subscribers := Webhook.subscribers hooks .trafficSpike
  if subscribers.isEmpty then ([], w)
  else
    match w.spikes.record s.projectId clock now with
    | (none, spikes) => ([], { w with spikes })
    | (some spike, spikes) => (spikeJobs stamp n subscribers spike, { w with spikes })

/-- The jobs that an event gives rise to that happens at `now`, while the clock reads `clock`: those
for goals before those for a spike. -/
def offersAt (w : Watcher) (lookup : Lookup) (stamp : Stamp) (s : Sighting) (clock now : Moment) :
    List Job × Watcher :=
  match w.activeWebhooks lookup s.projectId clock with
  | (.error _, w) => ([], w)
  | (.ok hooks, w) =>
    let (goalJobs, w) := w.goalOffers lookup stamp hooks s clock
    let (spikeJobs, w) := w.spikeOffers stamp goalJobs.length hooks s clock now
    (goalJobs ++ spikeJobs, w)

/-- The jobs that an event gives rise to that happens as the clock reads. -/
def offers (w : Watcher) (lookup : Lookup) (stamp : Stamp) (s : Sighting) (clock : Moment) :
    List Job × Watcher :=
  w.offersAt lookup stamp s clock clock

/-- Forget what was read about a project. -/
def invalidate (w : Watcher) (projectId : String) : Watcher :=
  { w with
    webhooks := w.webhooks.invalidate projectId
    goals := w.goals.invalidate projectId }

end Watcher

end Footfall
