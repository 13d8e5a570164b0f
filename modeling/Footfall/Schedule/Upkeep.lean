import Footfall.Schedule.Ticker
import Footfall.Service.Maintenance

/-!
# The schedule of the upkeep

Expired events are purged every hour and idle buckets dropped every minute; reports are mailed at
the interval of the settings, if there is a mailer. A run that fails is left at that, and the task
goes on.

* `Chore` is what can be scheduled, `chores` lists what is.
* `due` lists the runs that fall between two instants, in order.
* `Upkeep.advance` performs them.
-/

namespace Footfall.Schedule

/-- What the service does periodically. -/
inductive Chore where
  | purge
  | evict
  /-- Mail reports, each over as long a period as lies between them. -/
  | mail (period : Nat)
  deriving DecidableEq, Repr

/-- The seconds from one run to the next. -/
def Chore.seconds : Chore → Nat
  | .purge => 3600
  | .evict => 60
  | .mail period => period

/-- The chores of a service when it is started. -/
def chores (s : Settings) (withMailer : Bool) : List Chore :=
  if withMailer then [.purge, .evict, .mail s.reportInterval] else [.purge, .evict]

/-- The milliseconds after `start` and up to `stop` at which a chore runs. A run takes no time. -/
def runTimes (c : Chore) (start stop : Nat) : List Nat :=
  (starts (c.seconds * 1000) (fun _ => 0) stop).filter fun t => start < t

/-- The runs after `start` and up to `stop`, given in milliseconds, in order of time. -/
def due (cs : List Chore) (start stop : Nat) : List Chore :=
  let runs := cs.flatMap fun c => (runTimes c start stop).map fun t => (t, c)
  (sortBy (fun r : Nat × Chore => r.1) runs).map (·.2)

/-- A service with the number of reports that it has mailed. -/
structure Upkeep where
  service : Service
  mailed : Nat := 0

/-- Run a chore. -/
def Upkeep.run (u : Upkeep) (send : Project → Report Float → Bool) (clock : Moment)
    (wall : Timestamp) : Chore → Upkeep
  | .purge => { u with service := (u.service.purge wall).2 }
  | .evict => { u with service := (u.service.evict clock).2 }
  | .mail period =>
    match u.service.sendReports send period wall with
    | .ok sent => { u with mailed := u.mailed + sent.length }
    | .error _ => u

/-- Perform the runs after `start` and up to `stop`, while the clocks stand still. -/
def Upkeep.advance (u : Upkeep) (cs : List Chore) (send : Project → Report Float → Bool)
    (clock : Moment) (wall : Timestamp) (start stop : Nat) : Upkeep :=
  (due cs start stop).foldl (fun u c => u.run send clock wall c) u

end Footfall.Schedule
