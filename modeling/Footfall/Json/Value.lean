/-!
# JSON values

A JSON value as it is kept after reading. Whole numbers within 64 bits are exact and all other
numbers are floating-point. The fields of an object are sorted by name and each name occurs once.

* `Value` is the type of values.
* `insertField` adds a field in its place; a repeated name keeps the value given last.
* `Value.field?` looks a field up.
* `Value.ofFloat` is the value that stands for a computed number: a number that is not finite is
  written as null.
-/

namespace Footfall.Json

/-- A JSON value. -/
inductive Value where
  | null
  | bool (b : Bool)
  /-- A whole number between `-2^63` and `2^64 - 1`. -/
  | int (n : Int)
  | float (x : Float)
  | string (s : String)
  | array (items : List Value)
  /-- Fields sorted by name, each name once. -/
  | object (fields : List (String × Value))
  deriving Inhabited

/-- Add a field to sorted fields; the value of a name that is already there is replaced. -/
def insertField {α : Type} (name : String) (value : α) : List (String × α) → List (String × α)
  | [] => [(name, value)]
  | (n, v) :: r =>
    if name = n then (n, value) :: r
    else if name < n then (name, value) :: (n, v) :: r
    else (n, v) :: insertField name value r

/-- An object with the given fields, whatever order they are listed in. -/
def Value.ofFields (fields : List (String × Value)) : Value :=
  .object (fields.foldl (fun acc (n, v) => insertField n v acc) [])

/-- The field of an object with the given name. -/
def Value.field? (name : String) : Value → Option Value
  | .object fields => (fields.find? fun f => f.1 == name).map (·.2)
  | _ => none

/-- Is the value null? -/
def Value.isNull : Value → Bool
  | .null => true
  | _ => false

theorem Value.isNull_eq_false_iff {v : Value} : v.isNull = false ↔ v ≠ .null := by
  cases v <;> simp [isNull]

/-- The value of a computed number. -/
def Value.ofFloat (x : Float) : Value := if x.isFinite then .float x else .null

/-- An optional text as text or null. -/
def Value.ofText? : Option String → Value
  | some s => .string s
  | none => .null

/-- A number as floating point. -/
def Value.number? : Value → Option Float
  | .int n => some (Float.ofInt n)
  | .float x => some x
  | _ => none

end Footfall.Json
