import Footfall.Http.Message
import Footfall.Text.Blank

/-!
# Cross-origin access

Trackers send their events from the pages of other origins. Either every origin is allowed or
those of a list. An entry of the list counts when something is left of it after trimming and it
could be sent in a header; a list without any such entry allows every origin. The wildcard cannot
stand in a list.

* `OriginPolicy.ofList?` is the policy of a list.
* `OriginPolicy.allows` decides about an origin, `OriginPolicy.headers` says so in a response.
-/

namespace Footfall.Http

/-- The origins that are allowed. -/
inductive OriginPolicy where
  | any
  | only (origins : List String)
  deriving DecidableEq, Repr

namespace OriginPolicy

/-- The entries of a list that count. -/
def entries (origins : List String) : List String :=
  (origins.filterMap Text.nonBlank).filter isHeaderValue

/-- What stands for every origin in a header. -/
def wildcard : String := "*"

/-- The policy of a list, absent when the wildcard is among the entries that count. -/
def ofList? (origins : List String) : Option OriginPolicy :=
  match entries origins with
  | [] => some .any
  | allowed => if allowed.contains wildcard then none else some (.only allowed)

/-- Is an origin allowed? -/
def allows : OriginPolicy → String → Bool
  | .any, _ => true
  | .only allowed, origin => allowed.contains origin

/-- The name of the header that allows an origin. -/
def allowOrigin : String := "access-control-allow-origin"

/-- The header that tells a page whether its origin is allowed, given what the request says of
it. -/
def headers (p : OriginPolicy) (origin : Option String) : List (String × String) :=
  match p with
  | .any => [(allowOrigin, wildcard)]
  | .only allowed =>
    match origin.filter allowed.contains with
    | some o => [(allowOrigin, o)]
    | none => []

/-- The headers of the answer to a browser that asks beforehand. -/
def preflightHeaders (p : OriginPolicy) (origin : Option String) : List (String × String) :=
  p.headers origin ++
    [("access-control-allow-methods", wildcard), ("access-control-allow-headers", wildcard)]

end OriginPolicy

end Footfall.Http
