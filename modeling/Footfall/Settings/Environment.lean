import Footfall.Settings.Basic
import Footfall.Text.Numeral
import Footfall.Text.Split

/-!
# Settings from the environment

A server takes its settings from environment variables. Only the salt has to be given; all others
have defaults. The first variable that cannot be read is reported, and what was read is checked
as a whole at the end.
-/

namespace Footfall

/-- The values of environment variables by name. -/
abbrev Environment := String → Option String

namespace Environment

/-- The names of the variables that are looked at. -/
def names : List String :=
  [ "SIGHTLINE_SALT", "SIGHTLINE_SMTP_HOST", "SIGHTLINE_SMTP_PORT", "SIGHTLINE_SMTP_FROM",
    "SIGHTLINE_SMTP_USERNAME", "SIGHTLINE_SMTP_PASSWORD", "SIGHTLINE_PORT", "SIGHTLINE_DATA_DIR",
    "SIGHTLINE_DUCKDB_MEMORY", "SIGHTLINE_GEOIP_PATH", "SIGHTLINE_ROTATION_HOURS",
    PrivacyMode.settingName, "SIGHTLINE_HEARTBEAT_SECONDS", "SIGHTLINE_RATE_LIMIT_IP",
    "SIGHTLINE_RATE_LIMIT_API_KEY", "SIGHTLINE_RETENTION_DAYS", "SIGHTLINE_WEBHOOK_WORKERS",
    "SIGHTLINE_WEBHOOK_QUEUE", "SIGHTLINE_CORS_ORIGINS", "SIGHTLINE_EMAIL_REPORT_HOURS" ]

/-- The value of a variable, or a default. -/
def text (env : Environment) (name default : String) : String := (env name).getD default

/-- The whole number that a variable holds, at most `bound`, or a default. -/
def natural (env : Environment) (name : String) (default bound : Nat) : Except DomainError Nat :=
  match env name with
  | none => .ok default
  | some raw =>
    match Text.readSetting bound raw with
    | .ok n => .ok n
    | .error e => .error (.invalidSetting name e.message)

/-- The largest number of a port. -/
def maxPort : Nat := Nat.pow 2 16 - 1

/-- The largest number of a limit or a number of days, hours or seconds. -/
def maxCount : Nat := Nat.pow 2 32 - 1

/-- The largest size of a queue or of a report interval. -/
def maxSize : Nat := Nat.pow 2 64 - 1

/-- The salt, which has no default. -/
def salt (env : Environment) : Except DomainError String :=
  match env "SIGHTLINE_SALT" with
  | some s => .ok s
  | none => .error (.invalidSetting "SIGHTLINE_SALT" "required")

/-- How e-mail is sent; it is not sent at all without a host. -/
def mail (env : Environment) : Except DomainError (Option MailSettings) :=
  match (env "SIGHTLINE_SMTP_HOST").filter fun host => !Text.isBlankText host with
  | none => .ok none
  | some host => do
    let port ← env.natural "SIGHTLINE_SMTP_PORT" 587 maxPort
    return some
      { host, port
        sender := env.text "SIGHTLINE_SMTP_FROM" "sightline@localhost"
        username := env "SIGHTLINE_SMTP_USERNAME"
        password := env "SIGHTLINE_SMTP_PASSWORD" }

/-- The origins that may send events from a browser, separated by commas. -/
def origins (env : Environment) : List String :=
  match env "SIGHTLINE_CORS_ORIGINS" with
  | some raw => Text.split ',' raw
  | none => []

end Environment

/-- The settings that the environment gives. -/
def Settings.fromEnvironment (env : Environment) : Except DomainError Settings := do
  let salt ← env.salt
  let mail ← env.mail
  let port ← env.natural "SIGHTLINE_PORT" 3000 Environment.maxPort
  let rotationHours ← env.natural "SIGHTLINE_ROTATION_HOURS" 24 Environment.maxCount
  let privacy ← PrivacyMode.parse (env.text PrivacyMode.settingName "standard")
  let heartbeatSeconds ← env.natural "SIGHTLINE_HEARTBEAT_SECONDS" 15 Environment.maxCount
  let addressLimit ← env.natural "SIGHTLINE_RATE_LIMIT_IP" 100 Environment.maxCount
  let apiKeyLimit ← env.natural "SIGHTLINE_RATE_LIMIT_API_KEY" 1000 Environment.maxCount
  let retentionDays ← env.natural "SIGHTLINE_RETENTION_DAYS" 365 Environment.maxCount
  let workers ← env.natural "SIGHTLINE_WEBHOOK_WORKERS" 4 Environment.maxSize
  let queue ← env.natural "SIGHTLINE_WEBHOOK_QUEUE" 1024 Environment.maxSize
  let emailReportHours ← env.natural "SIGHTLINE_EMAIL_REPORT_HOURS" 24 Environment.maxSize
  let settings : Settings :=
    { port
      dataDirectory := env.text "SIGHTLINE_DATA_DIR" "./data"
      memoryLimit := env.text "SIGHTLINE_DUCKDB_MEMORY" "1GB"
      locationFile := env.text "SIGHTLINE_GEOIP_PATH" "./GeoLite2-City.mmdb"
      salt
      rotationHours := Visitor.clampRotation rotationHours
      privacy, heartbeatSeconds, addressLimit, apiKeyLimit, retentionDays
      webhookWorkers := min (max workers 1) 32
      webhookQueue := max queue 1
      corsOrigins := env.origins
      mail, emailReportHours }
  settings.validate
  return settings

end Footfall
