import Footfall.Text.Percent

/-!
# Internet addresses

Three readings of addresses. A client address in dotted form is read strictly: four decimal numbers
without leading zeros. The host of a link is read as browsers do: one to four numbers, in decimal,
octal or hexadecimal, the last of which fills the remaining bytes. An address of eight groups may
leave out one run of zero groups, and is written with its longest such run left out.

* `parseDotted` reads the strict form.
* `parseNumbers` reads the lenient one, and `endsInNumber` says which hosts have to have it.
* `parseGroups` and `groupsText` read and write addresses of eight groups.
-/

namespace Footfall.Net

/-- The four bytes of an address, the first one most significant. -/
structure Dotted where
  value : Nat
  deriving DecidableEq, Repr

/-- An address of four bytes in dotted form. -/
def Dotted.text (a : Dotted) : List Char :=
  let byte (k : Nat) : List Char := Nat.toDigits 10 (a.value / Nat.pow 256 k % 256)
  byte 3 ++ '.' :: byte 2 ++ '.' :: byte 1 ++ '.' :: byte 0

/-- A decimal number below 256 without leading zeros. -/
def strictByte (cs : List Char) : Option Nat :=
  if cs.isEmpty ∨ 3 < cs.length ∨ !cs.all Char.isDigit then none
  else if 1 < cs.length ∧ cs.head? = some '0' then none
  else
    let n := cs.foldl (fun n c => n * 10 + (c.toNat - 48)) 0
    if n < 256 then some n else none

/-- An address in strict dotted form. -/
def parseDotted (cs : List Char) : Option Dotted := do
  let parts ← (Text.splitBy (· == '.') cs).mapM strictByte
  match parts with
  | [a, b, c, d] => some ⟨((a * 256 + b) * 256 + c) * 256 + d⟩
  | _ => none

/-- A number in a base, if all characters are digits of it. -/
def inBase (base : Nat) (cs : List Char) : Option Nat := do
  let ds ← cs.mapM Text.hexValue
  if ds.all (· < base) then some (ds.foldl (fun n d => n * base + d) 0) else none

/-- A number of the lenient form: the base follows from its first characters. -/
def lenientNumber (cs : List Char) : Option Nat :=
  match cs with
  | [] => none
  | '0' :: 'x' :: r => inBase 16 r
  | '0' :: 'X' :: r => inBase 16 r
  | '0' :: c :: r => inBase 8 (c :: r)
  | cs => inBase 10 cs

/-- The pieces of a host between points, without an empty last one. -/
def hostParts (cs : List Char) : List (List Char) :=
  let parts := Text.splitBy (· == '.') cs
  if parts.getLast? = some [] then parts.dropLast else parts

/-- Is the last part of a host a number? Such a host has to be an address. -/
def endsInNumber (cs : List Char) : Bool :=
  match (hostParts cs).getLast? with
  | some last => (!last.isEmpty && last.all Char.isDigit) || (lenientNumber last).isSome
  | none => false

/-- An address in the lenient form. -/
def parseNumbers (cs : List Char) : Option Dotted := do
  let parts := hostParts cs
  if 4 < parts.length then none
  else
    let numbers ← parts.mapM lenientNumber
    let last ← numbers.getLast?
    let leading := numbers.dropLast
    if Nat.pow 256 (4 - leading.length) ≤ last ∨ leading.any (255 < ·) then none
    else
      some ⟨leading.foldl (fun n b => n * 256 + b) 0 * Nat.pow 256 (4 - leading.length) + last⟩

/-! ## Addresses of eight groups -/

/-- A group of one to four hexadecimal digits. -/
def group (cs : List Char) : Option Nat :=
  if cs.isEmpty ∨ 4 < cs.length then none else inBase 16 cs

/-- Groups with colons between them; the last one may be four bytes in dotted form. -/
def groups : List (List Char) → Option (List Nat)
  | [] => some []
  | [last] =>
    if '.' ∈ last then
      (parseDotted last).map fun a => [a.value / 65536, a.value % 65536]
    else (group last).map fun g => [g]
  | g :: rest => do
    let g ← group g
    let rest ← groups rest
    return g :: rest

/-- The groups of a text, none if it is empty. -/
def groupsOf (cs : List Char) : Option (List Nat) :=
  if cs.isEmpty then some [] else groups (Text.splitBy (· == ':') cs)

/-- What stands before and after the first pair of colons. -/
def splitColons : List Char → Option (List Char × List Char)
  | ':' :: ':' :: r => some ([], r)
  | c :: r => (splitColons r).map fun (a, b) => (c :: a, b)
  | [] => none

/-- An address of eight groups. -/
def parseGroups (cs : List Char) : Option (List Nat) :=
  match splitColons cs with
  | some (front, back) => do
    let front ← if '.' ∈ front then none else groupsOf front
    let back ← groupsOf back
    if front.length + back.length ≤ 7 then
      some (front ++ List.replicate (8 - front.length - back.length) 0 ++ back)
    else none
  | none => do
    let gs ← groupsOf cs
    if gs.length = 8 then some gs else none

/-- The length of the run of zeros at the start. -/
def zeroRun (gs : List Nat) : Nat := (gs.takeWhile (· == 0)).length

/-- The start and length of the longest run of zeros, the first one of equal length. -/
def longestRun (gs : List Nat) : Nat × Nat :=
  (List.range gs.length).foldl
    (fun best i =>
      let n := zeroRun (gs.drop i)
      if best.2 < n then (i, n) else best)
    (0, 0)

/-- Groups with colons between them. -/
def colonText : List Nat → List Char
  | [] => []
  | [g] => Nat.toDigits 16 g
  | g :: r => Nat.toDigits 16 g ++ ':' :: colonText r

/-- The text of an address of eight groups. -/
def groupsText (gs : List Nat) : List Char :=
  let (start, length) := longestRun gs
  if length < 2 then colonText gs
  else colonText (gs.take start) ++ ':' :: ':' :: colonText (gs.drop (start + length))

/-- The text of an address of eight groups that may stand for one of four bytes, whose bytes are
then written in dotted form. -/
def mappedText (gs : List Nat) : List Char :=
  match gs with
  | [0, 0, 0, 0, 0, 0xFFFF, a, b] => "::ffff:".toList ++ Dotted.text ⟨a * 65536 + b⟩
  | gs => groupsText gs

/-- The address of a peer, given with its port; a zone after a percent sign is dropped. -/
def peerAddress (peer : String) : String :=
  let cs := peer.toList
  match cs with
  | '[' :: r =>
    let inner := r.takeWhile fun c => c != ']' && c != '%'
    match parseGroups inner with
    | some gs => String.ofList (mappedText gs)
    | none => String.ofList inner
  | cs => String.ofList (cs.takeWhile (· != ':'))

end Footfall.Net
