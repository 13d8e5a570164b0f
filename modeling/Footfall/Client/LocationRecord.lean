import Footfall.Json.Value

/-!
# Records of the location database

A record is stored as a stream of items: a list or a map is announced by its length, and what it
holds follows. A reader knows the fields that it expects. It takes them from a map by name or by
position, passing over the fields that it does not know, or from a list in their order. A list
that is longer than expected is left where the last field ends, so that its surplus is read as the
next part of whatever the list stands in.

* `items` is the stream of a record.
* `Reader` is a reader of one value; `Reader.fields` reads a structure and `Reader.many` a list.
* `read` reads a record. A field of the wrong type makes the whole record unreadable.
-/

namespace Footfall.LocationRecord

/-- An item of a stored record. -/
inductive Item where
  | text (s : String)
  | whole (n : Nat)
  | real (x : Float)
  | flag (b : Bool)
  /-- The beginning of a list of so many values. -/
  | list (length : Nat)
  /-- The beginning of a map of so many names and values. -/
  | map (length : Nat)

/-! ## Writing -/

mutual

/-- The items of a value. Nulls are not stored. -/
def items : Json.Value → List Item
  | .null => []
  | .bool b => [.flag b]
  | .int n => if 0 ≤ n then [.whole n.toNat] else [.real (Float.ofInt n)]
  | .float x => [.real x]
  | .string s => [.text s]
  | .array vs => .list (vs.filter fun v => !v.isNull).length :: itemsOfList vs
  | .object fields => .map (fields.filter fun f => !f.2.isNull).length :: itemsOfFields fields

/-- The items of the values of a list. -/
def itemsOfList : List Json.Value → List Item
  | [] => []
  | v :: vs => items v ++ itemsOfList vs

/-- The items of the names and values of a map. -/
def itemsOfFields : List (String × Json.Value) → List Item
  | [] => []
  | (name, v) :: fields =>
    (if v.isNull then [] else .text name :: items v) ++ itemsOfFields fields

end

/-! ## Reading -/

/-- A reader of one value from the front of a stream. -/
abbrev Reader := List Item → Option (Json.Value × List Item)

/-- The number of values that follow an item as its parts. -/
def Item.parts : Item → Nat
  | .list n => n
  | .map n => 2 * n
  | _ => 0

/-- The stream after its first `n` values. -/
def skip : Nat → List Item → Option (List Item)
  | 0, stream => some stream
  | _ + 1, [] => none
  | n + 1, i :: r => skip (n + i.parts) r

namespace Reader

/-- A text. -/
def text : Reader
  | .text s :: r => some (.string s, r)
  | _ => none

/-- A whole number below a bound. -/
def whole (bound : Nat) : Reader
  | .whole n :: r => if n < bound then some (.int n, r) else none
  | _ => none

/-- A number. -/
def number : Reader
  | .whole n :: r => some (.int n, r)
  | .real x :: r => some (.float x, r)
  | _ => none

/-- A truth value. -/
def flag : Reader
  | .flag b :: r => some (.bool b, r)
  | _ => none

/-- So many names with texts. -/
def textPairs : Nat → List Item → Option (List (String × Json.Value) × List Item)
  | 0, stream => some ([], stream)
  | n + 1, .text name :: .text s :: r =>
    (textPairs n r).map fun (pairs, r) => ((name, .string s) :: pairs, r)
  | _ + 1, _ => none

/-- A map of texts: names by language. -/
def names : Reader
  | .map n :: r => (textPairs n r).map fun (pairs, r) => (.ofFields pairs, r)
  | _ => none

/-- So many values with the same reader. -/
def repeated (one : Reader) : Nat → List Item → Option (List Json.Value × List Item)
  | 0, stream => some ([], stream)
  | n + 1, stream => do
    let (v, r) ← one stream
    let (vs, r) ← repeated one n r
    return (v :: vs, r)

/-- A list. -/
def many (one : Reader) : Reader
  | .list n :: r => (repeated one n r).map fun (vs, r) => (.array vs, r)
  | _ => none

/-- The field that a key of a map means, by name or by position: `some none` for one that is not
known, and nothing for a key that cannot be one. -/
def fieldOfKey (known : List (String × Reader)) : Item → Option (Option (String × Reader))
  | .text name => some (known.find? fun f => f.1 == name)
  | .whole n => some known[n]?
  | _ => none

/-- So many keys and values of a map, a known field at most once. -/
def entries (known : List (String × Reader)) :
    Nat → List (String × Json.Value) → List Item → Option (Json.Value × List Item)
  | 0, found, stream => some (.ofFields found, stream)
  | _ + 1, _, [] => none
  | n + 1, found, key :: r =>
    match fieldOfKey known key with
    | none => none
    | some none => (skip 1 r).bind (entries known n found)
    | some (some (name, one)) =>
      if found.any fun f => f.1 == name then none
      else (one r).bind fun (v, r) => entries known n (found ++ [(name, v)]) r

/-- The values of all fields in their order. -/
def positions : List (String × Reader) → List (String × Json.Value) → List Item →
    Option (Json.Value × List Item)
  | [], found, stream => some (.ofFields found, stream)
  | (name, one) :: known, found, stream =>
    (one stream).bind fun (v, r) => positions known (found ++ [(name, v)]) r

/-- A structure, from a map or from a list that is long enough. -/
def fields (known : List (String × Reader)) : Reader
  | .map n :: r => entries known n [] r
  | .list n :: r => if known.length ≤ n then positions known [] r else none
  | _ => none

end Reader

open Reader

/-- A number that identifies a place. -/
def placeNumber : String × Reader := ("geoname_id", whole 4294967296)

/-- A city. -/
def city : Reader := fields [placeNumber, ("names", names)]

/-- A continent. -/
def continent : Reader := fields [("code", text), placeNumber, ("names", names)]

/-- The fields of a country. -/
def countryFields : List (String × Reader) :=
  [placeNumber, ("is_in_european_union", flag), ("iso_code", text), ("names", names)]

/-- A country. -/
def country : Reader := fields countryFields

/-- A country that is present in another one, for instance by its forces. -/
def representedCountry : Reader := fields (countryFields ++ [("type", text)])

/-- The coordinates and what belongs to them. -/
def point : Reader :=
  fields
    [ ("accuracy_radius", whole 65536), ("latitude", number), ("longitude", number),
      ("metro_code", whole 65536), ("time_zone", text) ]

/-- A postal code. -/
def postal : Reader := fields [("code", text)]

/-- A region of a country. -/
def subdivision : Reader := fields [placeNumber, ("iso_code", text), ("names", names)]

/-- Properties of the connection. -/
def traits : Reader :=
  fields
    [("is_anonymous_proxy", flag), ("is_anycast", flag), ("is_satellite_provider", flag)]

/-- A whole record. -/
def record : Reader :=
  fields
    [ ("city", city), ("continent", continent), ("country", country), ("location", point),
      ("postal", postal), ("registered_country", country),
      ("represented_country", representedCountry), ("subdivisions", many subdivision),
      ("traits", traits) ]

/-- The fields of a record that are known, absent when the record cannot be read. -/
def read (v : Json.Value) : Option Json.Value := (record (items v)).map (·.1)

end Footfall.LocationRecord
