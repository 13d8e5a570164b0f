import Footfall.Admission.Controller
import Footfall.Client.Location
import Footfall.Client.UserAgent
import Footfall.Settings.Basic
import Footfall.Store.Create
import Footfall.Webhook.Detection

/-!
# The state of the service

The service is one value: its settings with what is derived from them, the store, and what it
remembers of the traffic. Nothing in it reads a clock; an `Occasion` carries what the clocks read.

* `Service.withQueue` starts a service with a classifier of user agents and a queue of some length,
  `Service.new` one as the program runs it; `Service.reload` gives it other settings.
* `Service.observe` runs the detection for a stored event, `Service.observeAt` for one of a given
  instant.
* `Service.drain` delivers the jobs that wait.
-/

namespace Footfall

/-- When something happens, by the steady clock and by the wall clock, with names for the payloads
that are sent because of it. -/
structure Occasion where
  clock : Moment
  stamp : Stamp

/-- The wall clock of an occasion. -/
def Occasion.wall (o : Occasion) : Timestamp := o.stamp.wall

/-- A running service. -/
structure Service where
  settings : Settings
  hasher : Visitor.Hasher
  admission : Admission.Controller Float
  locate : Locator
  classify : Classifier
  store : Store
  watcher : Watcher
  queue : JobQueue

namespace Service

/-- Start a service in which so many jobs can wait. The salt has to be long enough. -/
def withQueue (settings : Settings) (locate : Locator) (classify : Classifier) (store : Store)
    (capacity : Nat) : Except DomainError Service :=
  match Visitor.Hasher.new settings.salt settings.rotationHours with
  | .error e => .error e
  | .ok hasher =>
    .ok
      { settings, hasher, locate, classify, store
        admission := Admission.Controller.new settings.addressLimit settings.apiKeyLimit
        watcher := Watcher.new
        queue := JobQueue.empty capacity }

/-- Start a service as the program does. Descriptions of user agents are searched for tokens, and as
many jobs can wait as the settings say. -/
def new (settings : Settings) (locate : Locator) (store : Store) : Except DomainError Service :=
  withQueue settings locate .byTokens store settings.webhookQueue

/-- Give the service other settings. Settings that cannot be used change nothing. -/
def reload (s : Service) (next : Settings) : Except DomainError Unit × Service :=
  match next.validate with
  | .error e => (.error e, s)
  | .ok () =>
    match s.hasher.reload next.salt next.rotationHours with
    | (.error e, hasher) => (.error e, { s with hasher })
    | (.ok (), hasher) =>
      (.ok (),
        { s with
          hasher
          admission := s.admission.reconfigure next.addressLimit next.apiKeyLimit
          settings := next })

/-- Run the detection for a stored event that happened at an instant of the steady clock, and count
the jobs that found room in the queue. -/
def observeAt (s : Service) (o : Occasion) (now : Moment) (seen : Sighting) : Nat × Service :=
  let (jobs, watcher) := s.watcher.offersAt s.store.lookup o.stamp seen o.clock now
  let (accepted, queue) := s.queue.offerAll jobs
  (accepted, { s with watcher, queue })

/-- Run the detection for a stored event, and count the jobs that found room in the queue. -/
def observe (s : Service) (o : Occasion) (seen : Sighting) : Nat × Service :=
  s.observeAt o o.clock seen

/-- Forget what was read about the webhooks and goals of a project. -/
def invalidate (s : Service) (projectId : String) : Service :=
  { s with watcher := s.watcher.invalidate projectId }

/-- Deliver jobs one after the other, given the replies to the attempts of each. -/
def deliverAll (step : Nat) (reply : Job → Nat → Reply) (store : Store) :
    List Job → List (DeliveryRun Store) × Store
  | [] => ([], store)
  | j :: rest =>
    let run := j.deliver step (reply j) Store.recordDelivery store
    let (runs, store) := deliverAll step reply run.audit rest
    (run :: runs, store)

/-- Deliver the jobs that wait, and empty the queue. -/
def drain (s : Service) (step : Nat) (reply : Job → Nat → Reply) :
    List (DeliveryRun Store) × Service :=
  let (runs, store) := deliverAll step reply s.store s.queue.jobs
  (runs, { s with store, queue := { s.queue with jobs := [] } })

end Service

end Footfall
