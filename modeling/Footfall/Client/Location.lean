import Footfall.Client.LocationRecord
import Footfall.Event.Basic
import Footfall.Net.Address
import Footfall.Settings.Privacy

/-!
# Where a client is

The location of a client is looked up by its address, in a database with one record for each
address. A record has more in it than is kept: the code of the country, the English names of the
city and of the first region, and the coordinates. What cannot be found is absent, and a record
that cannot be read tells nothing at all; a lookup never fails.

* `Location.redact` drops what the privacy mode does not allow to be stored.
* `Location.ofRecord` is the location in a record.
* `Locator` is a way to look addresses up; `LocationDatabase.locator` is the one of a database.
-/

namespace Footfall

/-- A way to look up where an address is. -/
abbrev Locator := String → Location

/-- The lookup without a database. -/
def Locator.blind : Locator := fun _ => {}

namespace Location

/-- What the privacy mode allows to be stored of a location. -/
def redact (l : Location) (mode : PrivacyMode) : Location :=
  if !mode.allowsGeolocation then {}
  else if !mode.allowsPreciseLocation then { country := l.country }
  else l

/-- The text at a path of field names. -/
def textAt (path : List String) (v : Json.Value) : Option String :=
  match path.foldlM (fun (v : Json.Value) name => v.field? name) v with
  | some (.string s) => some s
  | _ => none

/-- The number at a path of field names. -/
def numberAt (path : List String) (v : Json.Value) : Option Float :=
  (path.foldlM (fun (v : Json.Value) name => v.field? name) v).bind Json.Value.number?

/-- The first region of a record, the largest one. -/
def firstRegion (v : Json.Value) : Option Json.Value :=
  match v.field? "subdivisions" with
  | some (.array (r :: _)) => some r
  | _ => none

/-- What the fields of a record say. -/
def ofFields (v : Json.Value) : Location :=
  { country := textAt ["country", "iso_code"] v
    city := textAt ["city", "names", "en"] v
    region := (firstRegion v).bind (textAt ["names", "en"])
    latitude := numberAt ["location", "latitude"] v
    longitude := numberAt ["location", "longitude"] v }

/-- The location in a record. -/
def ofRecord (v : Json.Value) : Location :=
  match LocationRecord.read v with
  | some known => ofFields known
  | none => {}

end Location

/-- Records by address. -/
structure LocationDatabase where
  records : List (Net.Dotted × Json.Value)

/-- The lookup in a database. Only addresses in strict dotted form can be found. -/
def LocationDatabase.locator (d : LocationDatabase) : Locator := fun address =>
  match Net.parseDotted address.toList with
  | none => {}
  | some a =>
    match d.records.find? fun r => r.1 == a with
    | some (_, record) => Location.ofRecord record
    | none => {}

end Footfall
