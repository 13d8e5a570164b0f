import Footfall.Http.Message
import Footfall.Text.Percent
import Footfall.Time.Timestamp

/-!
# Query parameters

The parameters that a handler knows may be given once each; others are ignored. Instants are read
strictly: a value that is no instant makes the whole query unusable.
-/

namespace Footfall.Http

/-- The names and values of a query. -/
abbrev Parameters := List (String × String)

/-- The parameters of a request. -/
def Request.parameters (r : Request) : Parameters := Text.queryPairs r.query

/-- A query that cannot be used. -/
inductive QueryError where
  | duplicate (name : String)
  | missing (name : String)
  | noInstant (name : String)
  deriving DecidableEq, Repr

/-- The wording of an error. -/
def QueryError.message : QueryError → String
  | .duplicate name => "duplicate parameter " ++ name
  | .missing name => "missing parameter " ++ name
  | .noInstant name => "parameter " ++ name ++ " is no instant"

namespace Parameters

/-- The value of a parameter that may be given once. -/
def optional (ps : Parameters) (name : String) : Except QueryError (Option String) :=
  match ps.filter fun p => p.1 == name with
  | [] => .ok none
  | [p] => .ok (some p.2)
  | _ :: _ :: _ => .error (.duplicate name)

/-- The value of a parameter that has to be given once. -/
def required (ps : Parameters) (name : String) : Except QueryError String :=
  match ps.optional name with
  | .ok (some v) => .ok v
  | .ok none => .error (.missing name)
  | .error e => .error e

/-- The instant that a parameter gives. -/
def instant (ps : Parameters) (name : String) : Except QueryError (Option Timestamp) :=
  match ps.optional name with
  | .ok none => .ok none
  | .ok (some v) =>
    match Timestamp.parse v with
    | some t => .ok (some t)
    | none => .error (.noInstant name)
  | .error e => .error e

end Parameters

end Footfall.Http
