import Footfall.Error
import Footfall.Text.Lowercase
import Footfall.Text.Quoted
import Footfall.Text.Blank

/-!
# Privacy modes

The privacy mode of a server decides which details about a client may be stored with an event:
everything, no more of its location than the country, or nothing at all.
-/

namespace Footfall

/-- Which details about a client may be stored. -/
inductive PrivacyMode where
  /-- All of them. -/
  | standard
  /-- Of the location only the country. -/
  | strict
  /-- Neither location nor browser, system and device. -/
  | paranoid
  deriving DecidableEq, Repr

namespace PrivacyMode

/-- The name of a mode. -/
def name : PrivacyMode → String
  | .standard => "standard"
  | .strict => "strict"
  | .paranoid => "paranoid"

/-- The setting that holds the mode. -/
def settingName : String := "SIGHTLINE_PRIVACY_MODE"

/-- The mode that a text names, in any letter case. -/
def parse (raw : String) : Except DomainError PrivacyMode :=
  let given := Text.lowercaseAscii (Text.trim raw)
  if given = "standard" then .ok .standard
  else if given = "strict" then .ok .strict
  else if given = "paranoid" then .ok .paranoid
  else
    .error (.invalidSetting settingName
      ("expected standard, strict or paranoid, got " ++ Text.quoted given))

/-- May the country be stored? -/
def allowsGeolocation : PrivacyMode → Bool
  | .standard => true
  | .strict => true
  | .paranoid => false

/-- May region, city and coordinates be stored? -/
def allowsPreciseLocation : PrivacyMode → Bool
  | .standard => true
  | .strict => false
  | .paranoid => false

/-- May browser, system and device be stored? -/
def allowsClientDetails : PrivacyMode → Bool
  | .standard => true
  | .strict => true
  | .paranoid => false

end PrivacyMode

end Footfall
