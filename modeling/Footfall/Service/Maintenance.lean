import Footfall.Mail.Message
import Footfall.Service.Figures

/-!
# Upkeep

What the service does on its own: it deletes events that are older than the retention window,
drops idle buckets, and mails reports.

* `Service.purge` deletes expired events.
* `Service.evict` drops idle buckets.
* `Service.sendReports` mails the report of a period to every project that wants one.
-/

namespace Footfall

/-- Why something the service does on its own failed. -/
inductive UpkeepError where
  | store (f : StoreFailure)
  /-- The period of reports is too long to reckon with. -/
  | periodTooLong
  /-- Date arithmetic left the representable years. -/
  | outOfRange
  deriving DecidableEq, Repr

/-- The wording of an error. -/
def UpkeepError.message : UpkeepError → String
  | .store f => f.message
  | .periodTooLong => "Source duration value is out of range for the target type"
  | .outOfRange => "the date is out of range"

/-- The longest period of a report in seconds: as many milliseconds as fit 63 bits. -/
def longestPeriod : Nat := (Nat.pow 2 63 - 1) / 1000

namespace Service

/-- The start of the retention window. -/
def cutoff (s : Service) (now : Timestamp) : Option Timestamp :=
  now.shift? (-(s.settings.retention * Timestamp.second))

/-- Delete the events before the retention window, and count them. -/
def purge (s : Service) (now : Timestamp) : Except UpkeepError Nat × Service :=
  match s.cutoff now with
  | none => (.error .outOfRange, s)
  | some t =>
    match s.store.deleteBefore t with
    | (.ok n, store) => (.ok n, { s with store })
    | (.error f, store) => (.error (.store f), { s with store })

/-- Drop idle buckets, and count them. -/
def evict (s : Service) (clock : Moment) : Nat × Service :=
  let (n, admission) := s.admission.evictIdle clock
  (n, { s with admission })

/-- The report that is mailed to a project, if it can be made and the mailer takes it. -/
def mailReport (s : Service) (send : Project → Report Float → Bool)
    (range : Timestamp × Timestamp) (p : Project) : Option (Project × Report Float) :=
  if p.reportEmail.isNone then none
  else
    match s.report p.id range with
    | .error _ => none
    | .ok r => if send p r then some (p, r) else none

/-- Mail the report of the last `period` seconds to every project with an address. A project whose
report fails does not stop the others. -/
def sendReports (s : Service) (send : Project → Report Float → Bool) (period : Nat)
    (now : Timestamp) : Except UpkeepError (List (Project × Report Float)) :=
  if longestPeriod < period then .error .periodTooLong
  else
    match now.shift? (-(period * Timestamp.second)) with
    | none => .error .outOfRange
    | some start =>
      match s.store.allProjects with
      | .error f => .error (.store f)
      | .ok projects => .ok (projects.filterMap (s.mailReport send (start, now)))

end Service

end Footfall
