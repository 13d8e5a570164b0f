import Footfall.Event.Payload
import Footfall.Json.Reader

/-!
# Reading payloads

A payload is read from JSON text field by field. Path, session and kind are required; the other
fields may be missing or null. A field that is not known is passed over, and a known one must not
come twice. A payload may also be written as an array of all its fields in their fixed order.

* `Field` names the fields, and `Field.all` lists them in that order.
* `Draft` holds the fields read so far; `Draft.read` reads one more of them, and `Draft.complete`
  is the payload once all required fields are there.
* `Payload.parse` reads a whole text.
-/

namespace Footfall.Payload

open Json

/-- The fields of a payload. -/
inductive Field where
  | path
  | referrer
  | session
  | kind
  | eventName
  | properties
  | browser
  | os
  | device
  | utmSource
  | utmMedium
  | utmCampaign
  | scrollDepth
  | targetUrl
  deriving DecidableEq, Repr

/-- The name of a field. -/
def Field.name : Field → String
  | .path => "path"
  | .referrer => "referrer"
  | .session => "sessionId"
  | .kind => "type"
  | .eventName => "eventName"
  | .properties => "properties"
  | .browser => "browser"
  | .os => "os"
  | .device => "device"
  | .utmSource => "utmSource"
  | .utmMedium => "utmMedium"
  | .utmCampaign => "utmCampaign"
  | .scrollDepth => "scrollDepth"
  | .targetUrl => "targetUrl"

/-- All fields, in the order of the array form. -/
def Field.all : List Field :=
  [.path, .referrer, .session, .kind, .eventName, .properties, .browser, .os, .device, .utmSource,
    .utmMedium, .utmCampaign, .scrollDepth, .targetUrl]

/-- The field with the given name. -/
def Field.ofName? (name : String) : Option Field := Field.all.find? fun f => f.name == name

/-! ## Values of fields -/

/-- A required text. -/
def readText (cs : List Char) : Option (String × List Char) := Json.string (skipSpace cs)

/-- Read null as absent and anything else with `read`. -/
def readOptional {α : Type} (read : List Char → Option (α × List Char)) (cs : List Char) :
    Option (Option α × List Char) :=
  match skipSpace cs with
  | 'n' :: r => (Text.strip? ['u', 'l', 'l'] r).map fun r => (none, r)
  | cs => (read cs).map fun (v, r) => (some v, r)

/-- The name of a kind, alone or as the only field of an object, with the value null. -/
def readKind (cs : List Char) : Option (EventKind × List Char) :=
  match skipSpace cs with
  | '\x7b' :: r => do
    let (name, r) ← Json.string (skipSpace r)
    let kind ← EventKind.ofName? name
    let r ← Text.strip? [':'] (skipSpace r)
    let r ← Text.strip? ['n', 'u', 'l', 'l'] (skipSpace r)
    let r ← Text.strip? ['\x7d'] (skipSpace r)
    return (kind, r)
  | cs => do
    let (name, r) ← Json.string cs
    let kind ← EventKind.ofName? name
    return (kind, r)

/-- A whole number of 32 bits. -/
def readDepth (cs : List Char) : Option (Int × List Char) := do
  let (n, r) ← Numeral.scan (skipSpace cs)
  match ← n.value with
  | .int n => if -2147483648 ≤ n ∧ n < 2147483648 then some (n, r) else none
  | _ => none

/-- A free value. The payload around it is one container of its depth. -/
def readProperties (cs : List Char) : Option (Value × List Char) :=
  Json.value (maxDepth - 1) (fuelFor cs) cs

/-! ## Drafts -/

/-- The fields of a payload that have been read so far. -/
structure Draft where
  seen : List Field := []
  path : Option String := none
  referrer : Option String := none
  sessionId : Option String := none
  kind : Option EventKind := none
  eventName : Option String := none
  properties : Option Value := none
  browser : Option String := none
  os : Option String := none
  device : Option String := none
  utmSource : Option String := none
  utmMedium : Option String := none
  utmCampaign : Option String := none
  scrollDepth : Option Int := none
  targetUrl : Option String := none

/-- Read the value of a field into the draft. A field that was read before is an error. -/
def Draft.read (d : Draft) (f : Field) (cs : List Char) : Option (Draft × List Char) :=
  if f ∈ d.seen then none
  else
    let d := { d with seen := f :: d.seen }
    let text := readOptional readText cs
    match f with
    | .path => (readText cs).map fun (v, r) => ({ d with path := some v }, r)
    | .session => (readText cs).map fun (v, r) => ({ d with sessionId := some v }, r)
    | .kind => (readKind cs).map fun (v, r) => ({ d with kind := some v }, r)
    | .properties =>
      (readOptional readProperties cs).map fun (v, r) => ({ d with properties := v }, r)
    | .scrollDepth => (readOptional readDepth cs).map fun (v, r) => ({ d with scrollDepth := v }, r)
    | .referrer => text.map fun (v, r) => ({ d with referrer := v }, r)
    | .eventName => text.map fun (v, r) => ({ d with eventName := v }, r)
    | .browser => text.map fun (v, r) => ({ d with browser := v }, r)
    | .os => text.map fun (v, r) => ({ d with os := v }, r)
    | .device => text.map fun (v, r) => ({ d with device := v }, r)
    | .utmSource => text.map fun (v, r) => ({ d with utmSource := v }, r)
    | .utmMedium => text.map fun (v, r) => ({ d with utmMedium := v }, r)
    | .utmCampaign => text.map fun (v, r) => ({ d with utmCampaign := v }, r)
    | .targetUrl => text.map fun (v, r) => ({ d with targetUrl := v }, r)

/-- The payload of a draft that has path, session and kind. -/
def Draft.complete (d : Draft) : Option Payload := do
  let path ← d.path
  let sessionId ← d.sessionId
  let kind ← d.kind
  return {
    path, sessionId, kind,
    referrer := d.referrer, eventName := d.eventName, properties := d.properties,
    browser := d.browser, os := d.os, device := d.device,
    utmSource := d.utmSource, utmMedium := d.utmMedium, utmCampaign := d.utmCampaign,
    scrollDepth := d.scrollDepth, targetUrl := d.targetUrl }

/-! ## The two written forms -/

/-- Read fields with their names up to the closing brace; there is at least one. -/
def readNamed (d : Draft) : Nat → List Char → Option (Draft × List Char)
  | 0, _ => none
  | fuel + 1, cs => do
    let (name, r) ← Json.string (skipSpace cs)
    let r ← Text.strip? [':'] (skipSpace r)
    let (d, r) ←
      match Field.ofName? name with
      | some f => d.read f r
      | none => (skipValue r).map fun r => (d, r)
    match skipSpace r with
    | ',' :: r => readNamed d fuel r
    | '\x7d' :: r => some (d, r)
    | _ => none

/-- Read the given fields in order, with commas between them, up to the closing bracket. -/
def readInOrder (d : Draft) : List Field → List Char → Option (Draft × List Char)
  | [], _ => none
  | [f], cs => do
    let (d, r) ← d.read f cs
    let r ← Text.strip? [']'] (skipSpace r)
    return (d, r)
  | f :: g :: fs, cs => do
    let (d, r) ← d.read f cs
    let r ← Text.strip? [','] (skipSpace r)
    readInOrder d (g :: fs) r

/-- Read a payload in either form. -/
def readDraft (cs : List Char) : Option (Draft × List Char) :=
  match skipSpace cs with
  | '\x7b' :: r =>
    match skipSpace r with
    | '\x7d' :: r => some ({}, r)
    | r => readNamed {} (fuelFor r) r
  | '[' :: r => readInOrder {} Field.all r
  | _ => none

/-- Read a text that is one payload. -/
def parse (s : String) : Option Payload := do
  let d ← atEnd (readDraft s.toList)
  d.complete

end Footfall.Payload
