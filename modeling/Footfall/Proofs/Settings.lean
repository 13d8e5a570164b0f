import Footfall.Proofs.Except
import Footfall.Settings.Environment

/-!
# Settings that come from the environment

Settings are checked when they are read, so those that the environment gives are valid
(`Settings.validate_of_fromEnvironment`); in particular their salt is long enough
(`Settings.checkSalt_of_validate`). An environment that has nothing but a long enough salt gives the
defaults (`Settings.fromEnvironment_onlySalt`), so every default passes the checks.
-/

namespace Footfall

namespace Settings

/-- Valid settings have a salt that a hasher accepts. -/
theorem checkSalt_of_validate {s : Settings} (h : s.validate = .ok ()) :
    Visitor.checkSalt s.salt = .ok () := by
  obtain ⟨⟨⟩, hsalt, -⟩ := bind_eq_ok_iff.1 h
  exact hsalt

theorem validate_of_fromEnvironment {env : Environment} {s : Settings}
    (h : fromEnvironment env = .ok s) : s.validate = .ok () := by
  simp only [fromEnvironment, bind_eq_ok_iff] at h
  obtain ⟨salt, -, mail, -, port, -, rotation, -, privacy, -, heartbeat, -, address, -, apiKey, -,
    retention, -, workers, -, queue, -, report, -, ⟨⟩, hvalid, heq⟩ := h
  rwa [← Except.ok.inj heq]

/-- The settings with a salt and otherwise the defaults. -/
def ofSalt (salt : String) : Settings :=
  { port := 3000
    dataDirectory := "./data"
    memoryLimit := "1GB"
    locationFile := "./GeoLite2-City.mmdb"
    salt
    rotationHours := 24
    privacy := .standard
    heartbeatSeconds := 15
    addressLimit := 100
    apiKeyLimit := 1000
    retentionDays := 365
    webhookWorkers := 4
    webhookQueue := 1024
    corsOrigins := []
    mail := none
    emailReportHours := 24 }

/-- The environment in which only the salt is set. -/
def onlySalt (salt : String) : Environment := fun name =>
  if name = "SIGHTLINE_SALT" then some salt else none

theorem onlySalt_of_ne {salt name : String} (h : name ≠ "SIGHTLINE_SALT") :
    onlySalt salt name = none :=
  if_neg h

theorem natural_onlySalt {salt name : String} (h : name ≠ "SIGHTLINE_SALT") (default bound : Nat) :
    (onlySalt salt).natural name default bound = .ok default := by
  rw [Environment.natural, onlySalt_of_ne h]

theorem validate_ofSalt {salt : String} (h : Visitor.leastSaltLength ≤ salt.length) :
    (ofSalt salt).validate = .ok () := by
  have hsalt : Visitor.checkSalt (ofSalt salt).salt = .ok () := if_neg (Nat.not_lt.2 h)
  rw [validate, hsalt]
  rfl

/-- Nothing but the salt has to be set, and the defaults pass all checks. -/
theorem fromEnvironment_onlySalt {salt : String} (h : Visitor.leastSaltLength ≤ salt.length) :
    fromEnvironment (onlySalt salt) = .ok (ofSalt salt) := by
  have hsalt : (onlySalt salt).salt = .ok salt := rfl
  have hmail : (onlySalt salt).mail = .ok none := rfl
  have hmode : (onlySalt salt).text PrivacyMode.settingName "standard" = "standard" := rfl
  have hprivacy : PrivacyMode.parse "standard" = .ok .standard := rfl
  simp only [fromEnvironment, hsalt, hmail, hmode, hprivacy, natural_onlySalt, ne_eq,
    String.reduceEq, not_false_eq_true, bind, Except.bind]
  exact congrArg (fun x => x.bind fun _ => .ok (ofSalt salt)) (validate_ofSalt h)

end Settings

end Footfall
