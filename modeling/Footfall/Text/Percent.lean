import Footfall.Text.Split
import Footfall.Text.Utf8

/-!
# Percent-encoding

The path of a request is decoded strictly: bytes that are no text make it unusable. The pairs of
a query string are decoded leniently, and there a plus sign stands for a space.

* `decodePath` is the text of one path segment.
* `queryPairs` lists the decoded pairs of a query string in order.
-/

namespace Footfall.Text

/-- The value of a hexadecimal digit. -/
def hexValue (c : Char) : Option Nat :=
  if '0' ≤ c ∧ c ≤ '9' then some (c.toNat - 48)
  else if 'a' ≤ c ∧ c ≤ 'f' then some (c.toNat - 87)
  else if 'A' ≤ c ∧ c ≤ 'F' then some (c.toNat - 55)
  else none

/-- The bytes behind a percent-encoded text. A percent sign without two hexadecimal digits stands
for itself. -/
def percentBytes : List Char → List Nat
  | [] => []
  | '%' :: a :: b :: r =>
    match hexValue a, hexValue b with
    | some x, some y => (16 * x + y) :: percentBytes r
    | _, _ => 0x25 :: percentBytes (a :: b :: r)
  | c :: r => encodeUtf8 [c] ++ percentBytes r
termination_by cs => cs.length

/-- The text of a path segment, absent when its bytes are no text. -/
def decodePath (cs : List Char) : Option String :=
  (decodeStrict (percentBytes cs)).map String.ofList

/-- A name or value of a query string. -/
def decodeForm (cs : List Char) : String :=
  String.ofList (decodeLossy (percentBytes (cs.map fun c => if c = '+' then ' ' else c)))

/-- The names and values of a query string, in order; empty pieces are passed over. -/
def queryPairs (query : List Char) : List (String × String) :=
  ((splitBy (· == '&') query).filter fun piece => !piece.isEmpty).map fun piece =>
    match splitOnce '=' piece with
    | some (name, value) => (decodeForm name, decodeForm value)
    | none => (decodeForm piece, "")

end Footfall.Text
