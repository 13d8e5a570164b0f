import Footfall.Settings.Privacy
import Footfall.Visitor

/-!
# Settings

The settings of a server. They are checked before they take effect: a limit of zero would refuse
every event, an interval of zero would make sessions as long as nothing.

* `Settings` holds them.
* `Settings.validate` finds the first that cannot be used.
* `Settings.retention` and `Settings.reportInterval` turn settings into durations.
-/

namespace Footfall

/-- How e-mail is sent. -/
structure MailSettings where
  host : String
  port : Nat
  /-- The address of the sender. -/
  sender : String
  username : Option String
  password : Option String
  deriving DecidableEq, Repr

/-- The settings of a server. -/
structure Settings where
  port : Nat
  dataDirectory : String
  /-- How much memory the event store may use. -/
  memoryLimit : String
  /-- The file with the locations of addresses. -/
  locationFile : String
  salt : String
  rotationHours : Nat
  privacy : PrivacyMode
  heartbeatSeconds : Nat
  /-- The events per minute that an address may send. -/
  addressLimit : Nat
  /-- The events per minute that an API key may be used for. -/
  apiKeyLimit : Nat
  retentionDays : Nat
  webhookWorkers : Nat
  webhookQueue : Nat
  corsOrigins : List String
  mail : Option MailSettings
  emailReportHours : Nat
  deriving DecidableEq, Repr

namespace Settings

/-- The longest interval between e-mail reports in hours: a year. -/
def longestReportInterval : Nat := 8760

/-- A limit or interval has to be positive. -/
def requirePositive (name : String) (n : Nat) : Except DomainError Unit :=
  if n = 0 then .error (.invalidSetting name "must be > 0") else .ok ()

/-- The first setting that cannot be used, if any. -/
def validate (s : Settings) : Except DomainError Unit := do
  Visitor.checkSalt s.salt
  requirePositive "SIGHTLINE_RATE_LIMIT_IP" s.addressLimit
  requirePositive "SIGHTLINE_RATE_LIMIT_API_KEY" s.apiKeyLimit
  requirePositive "SIGHTLINE_HEARTBEAT_SECONDS" s.heartbeatSeconds
  if longestReportInterval < s.emailReportHours then
    .error (.invalidSetting "SIGHTLINE_EMAIL_REPORT_HOURS"
      ("must be <= " ++ toString longestReportInterval))
  else .ok ()

/-- How long events are kept, in seconds. -/
def retention (s : Settings) : Nat := s.retentionDays * 86400

/-- The largest number of seconds that a duration can have. -/
def longestDuration : Nat := Nat.pow 2 64 - 1

/-- The time between e-mail reports in seconds: an hour or more. -/
def reportInterval (s : Settings) : Nat :=
  min (max s.emailReportHours 1 * 3600) longestDuration

end Settings

end Footfall
