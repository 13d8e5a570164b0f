import Footfall.Time.Date

/-!
# Timestamps

An instant of universal time is a whole second, counted from the beginning of 1970, and the
nanoseconds within it. The count of seconds knows no leap seconds, but a clock may show one: it is
written as second 60 and belongs to the second before it, with a fraction of a full second or more.
Arithmetic on timestamps is checked: a result outside the representable years is absent.

* `Timestamp.date` and `Timestamp.secondOfDay` take an instant apart, also before 1970.
* `Timestamp.shift?` moves an instant by a duration, and `Timestamp.since` is the duration between
  two of them.
* `Timestamp.zoned` and `Timestamp.local` write an instant with and without its zone, with the
  fewest of 0, 3, 6 and 9 fraction digits that lose nothing.
* `Timestamp.parse` reads the instants that requests may carry.
-/

namespace Footfall

/-- An instant of universal time. -/
structure Timestamp where
  /-- The whole seconds since the beginning of 1970. -/
  seconds : Int
  /-- The nanoseconds within the second; from a second up, those within the leap second that
  follows it. -/
  fraction : Nat
  deriving DecidableEq, Repr, Inhabited

namespace Timestamp

/-- A microsecond in nanoseconds. -/
def microsecond : Int := 1000

/-- A second in nanoseconds. -/
def second : Int := 1000000000

/-- A day in nanoseconds. -/
def oneDay : Int := 86400 * second

/-- Earlier seconds come first, and within a second and its leap second the fraction decides. -/
instance : LE Timestamp :=
  ⟨fun a b => a.seconds < b.seconds ∨ a.seconds = b.seconds ∧ a.fraction ≤ b.fraction⟩

instance : LT Timestamp :=
  ⟨fun a b => a.seconds < b.seconds ∨ a.seconds = b.seconds ∧ a.fraction < b.fraction⟩

instance (a b : Timestamp) : Decidable (a ≤ b) :=
  inferInstanceAs
    (Decidable (a.seconds < b.seconds ∨ a.seconds = b.seconds ∧ a.fraction ≤ b.fraction))

instance (a b : Timestamp) : Decidable (a < b) :=
  inferInstanceAs
    (Decidable (a.seconds < b.seconds ∨ a.seconds = b.seconds ∧ a.fraction < b.fraction))

/-- The instant a number of nanoseconds after the beginning of 1970. -/
def ofNanos (n : Int) : Timestamp := ⟨n / second, (n % second).toNat⟩

/-- The instant a number of microseconds after the beginning of 1970. -/
def ofMicros (us : Int) : Timestamp := ofNanos (us * microsecond)

/-- The nanoseconds since the beginning of 1970. -/
def nanos (t : Timestamp) : Int := t.seconds * second + t.fraction

/-- The whole microseconds since the beginning of 1970. -/
def micros (t : Timestamp) : Int := t.nanos / microsecond

/-- Does the instant lie in a leap second? -/
def isLeap (t : Timestamp) : Bool := second ≤ t.fraction

/-- The date of an instant. -/
def date (t : Timestamp) : Date := ⟨t.seconds / 86400⟩

/-- The first instant of a date. -/
def ofDate (d : Date) : Timestamp := ⟨d.day * 86400, 0⟩

/-- The seconds since midnight. -/
def secondOfDay (t : Timestamp) : Nat := (t.seconds % 86400).toNat

/-- The hour of the day. -/
def hour (t : Timestamp) : Nat := t.secondOfDay / 3600

/-- Can the service handle the instant? -/
def representable (t : Timestamp) : Bool := t.date.representable

/-- The instant a number of nanoseconds later. A move that starts in a leap second and ends in it
or within the second before it keeps to that second's fraction; one that ends later takes the leap
second for the second before it, one that ends earlier takes it for the second after it. -/
def shift (t : Timestamp) (d : Int) : Timestamp :=
  if t.isLeap then
    if -second < d ∧ t.fraction + d < 2 * second then ⟨t.seconds, (t.fraction + d).toNat⟩
    else if 0 < d then ofNanos (t.nanos - second + d)
    else ofNanos (t.nanos + d)
  else ofNanos (t.nanos + d)

/-- The instant a number of nanoseconds later, absent when it is not representable. -/
def shift? (t : Timestamp) (d : Int) : Option Timestamp :=
  if (t.shift d).representable then some (t.shift d) else none

/-- The nanoseconds from one instant to another. A leap second at the earlier time of day takes up a
second of its own. -/
def since (start stop : Timestamp) : Int :=
  let leap :=
    if start.secondOfDay < stop.secondOfDay ∧ start.isLeap then second
    else if stop.secondOfDay < start.secondOfDay ∧ stop.isLeap then -second
    else 0
  stop.nanos - start.nanos + leap

/-! ## Writing -/

/-- The fraction of a second with the fewest of 0, 3, 6 and 9 digits that lose nothing. -/
def fractionText (nanos : Nat) : List Char :=
  if nanos = 0 then []
  else if nanos % 1000000 = 0 then '.' :: Date.padded 3 (nanos / 1000000)
  else if nanos % 1000 = 0 then '.' :: Date.padded 6 (nanos / 1000)
  else '.' :: Date.padded 9 nanos

/-- Hour and minute. -/
def hourMinute (t : Timestamp) : List Char :=
  Date.padded 2 t.hour ++ ':' :: Date.padded 2 (t.secondOfDay / 60 % 60)

/-- Date and time without a zone. -/
def localChars (t : Timestamp) : List Char :=
  t.date.text ++ 'T' :: t.hourMinute ++
    ':' :: Date.padded 2 (t.secondOfDay % 60 + t.fraction / 1000000000) ++
    fractionText (t.fraction % 1000000000)

/-- Date and time without a zone, as text. -/
def localText (t : Timestamp) : String := String.ofList t.localChars

/-- Date and time in universal time. -/
def zoned (t : Timestamp) : String := String.ofList (t.localChars ++ ['Z'])

/-- Date and time with a numeric offset of zero. -/
def withOffset (t : Timestamp) : String :=
  String.ofList (t.localChars ++ ['+', '0', '0', ':', '0', '0'])

/-! ## Reading -/

/-- A fraction of a second in nanoseconds; digits after the ninth are dropped. -/
def scanFraction : List Char → Option (Nat × List Char)
  | '.' :: r =>
    let ds := (r.take 9).takeWhile Char.isDigit
    if ds.isEmpty then none
    else
      let n := ds.foldl (fun n c => n * 10 + (c.toNat - 48)) 0
      some (n * Nat.pow 10 (9 - ds.length), (r.drop ds.length).dropWhile Char.isDigit)
  | cs => some (0, cs)

/-- Two digits. -/
def scanPair : List Char → Option (Nat × List Char)
  | a :: b :: r =>
    if a.isDigit ∧ b.isDigit then some ((a.toNat - 48) * 10 + (b.toNat - 48), r) else none
  | _ => none

/-- The offset after its sign, in seconds: hours and minutes, with or without a colon. -/
def scanOffsetDigits (cs : List Char) : Option (Nat × List Char) := do
  let (h, r) ← scanPair cs
  let (m, r) ← scanPair (r.dropWhile fun c => c = ':' || Text.isBlank c)
  if m < 60 then some (h * 3600 + m * 60, r) else none

/-- The zone of a time: universal time under one of its names, or an offset in seconds. -/
def scanZone (cs : List Char) : Option (Int × List Char) :=
  match cs with
  | 'Z' :: r => some (0, r)
  | 'z' :: r => some (0, r)
  | '+' :: r => (scanOffsetDigits r).map fun (n, r) => ((n : Int), r)
  | '-' :: r => (scanOffsetDigits r).map fun (n, r) => (-(n : Int), r)
  | '\u2212' :: r => (scanOffsetDigits r).map fun (n, r) => (-(n : Int), r)
  | a :: b :: c :: r =>
    if [a, b, c].map Char.toUpper = ['U', 'T', 'C'] then some (0, r) else none
  | _ => none

/-- Read hour, minute and second with colons between them, as seconds of the day and nanoseconds.
Second 60 of any minute is a leap second. -/
def scanClock (cs : List Char) : Option ((Nat × Nat) × List Char) := do
  let (h, r) ← Date.scanNumber 2 (Date.skipBlank cs)
  let r ← Date.scanMark ':' r
  let (m, r) ← Date.scanNumber 2 (Date.skipBlank r)
  let r ← Date.scanMark ':' r
  let (s, r) ← Date.scanNumber 2 (Date.skipBlank r)
  if h < 24 ∧ m < 60 ∧ s ≤ 60 then
    some ((h * 3600 + m * 60 + min s 59, if s = 60 then 1000000000 else 0), r)
  else none

/-- The rest after the letter or blank between date and time. -/
def scanSeparator : List Char → Option (List Char)
  | 'T' :: r => some r
  | 't' :: r => some r
  | ' ' :: r => some r
  | _ => none

/-- Read an instant with its zone that is the whole text. -/
def parse (s : String) : Option Timestamp := do
  let ((y, m, d), r) ← Date.scanCivil s.toList
  let r ← scanSeparator r
  let ((clock, leap), r) ← scanClock r
  let (fraction, r) ← scanFraction r
  let (offset, r) ← scanZone (Date.skipBlank r)
  let date ← Date.ofCivil? y m d
  let t : Timestamp := ⟨(ofDate date).seconds + clock - offset, leap + fraction⟩
  if (Date.skipBlank r).isEmpty ∧ offset.natAbs < 86400 ∧ t.representable then some t else none

end Timestamp

/-! ## The steady clock -/

/-- A reading of a steady clock, in nanoseconds from its own zero. -/
abbrev Moment := Int

/-- The nanoseconds from one reading to another; zero when the clock went backwards. -/
def elapsed (since now : Moment) : Nat := (now - since).toNat

end Footfall
