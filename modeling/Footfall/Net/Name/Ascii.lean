import Footfall.Net.Name.Image
import Footfall.Net.Name.Label
import Footfall.Net.Punycode

/-!
# Names in ASCII

The form in which host names are sent: every label with other characters than ASCII is encoded
and marked as such. A label that comes with the mark has to be the encoded form of a label that
needs it.

* `plainLabel` is a label with its encoding undone.
* `toAscii` is the form of a name in ASCII, absent when the name breaks a rule.
-/

namespace Footfall.Net.Name

/-- The mark of an encoded label. -/
def labelMark : List Char := ['x', 'n', '-', '-']

/-- The most characters of a label that is encoded. -/
def maxPlainLength : Nat := 1000

/-- The most characters of an encoded label, without its mark. -/
def maxEncodedLength : Nat := 2000

/-- Does a text hold nothing but ASCII? -/
def isAscii (cs : List Char) : Bool := cs.all fun c => c.toNat < 128

/-- Is a text its own image, in composed form? -/
def isPlain (cs : List Char) : Bool := (images cs).map composed == some cs

/-- A label with its encoding undone. A label that claims to be encoded has to decode to a label
that needs it. -/
def plainLabel (label : List Char) : Option (List Char) :=
  match Text.strip? labelMark label with
  | none => if isAscii label || label.length ≤ maxPlainLength then some label else none
  | some encoded =>
    if maxEncodedLength < encoded.length then none
    else (Punycode.decode encoded).filter fun plain => !isAscii plain && isPlain plain

/-- A label in ASCII. -/
def asciiLabel (label : List Char) : List Char :=
  if isAscii label then label else labelMark ++ Punycode.encode label

/-- Labels with points between them. -/
def joinLabels : List (List Char) → List Char
  | [] => []
  | [l] => l
  | l :: r => l ++ '.' :: joinLabels r

/-- Do the labels of a name keep the rules? -/
def areWellFormed (labels : List (List Char)) : Bool :=
  labels.all (fun l => startsWell l && joinersHold [] l) &&
    (!labels.any isLeftward || labels.all isDirected)

/-- The form of a name in ASCII, absent when the name breaks a rule. -/
def toAscii (name : List Char) : Option (List Char) := do
  let image ← images name
  let labels ← (Text.splitBy (· == '.') (composed image)).mapM plainLabel
  if areWellFormed labels then some (joinLabels (labels.map asciiLabel)) else none

end Footfall.Net.Name
