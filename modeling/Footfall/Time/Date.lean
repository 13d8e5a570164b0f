import Footfall.Text.Numeral

/-!
# Dates

A date is the number of its day, counted from the first of January 1970. Year, month and day are
read off that number by the rules of the Gregorian calendar, extended to all years.

* `Date.civil` and `Date.ofCivil` go between a day number and year, month and day.
* `Date.weekday` counts from Sunday.
* `Date.representable` bounds the days that the service can handle: the years from -262143 to
  262142. `Date.shift?` moves by days within those bounds.
* `Date.text` writes a date; `Date.parse` reads one.
-/

namespace Footfall

/-- A day, by its distance from the first of January 1970. -/
structure Date where
  day : Int
  deriving DecidableEq, Repr

namespace Date

/-- The days before the first of March of a year that starts in March. -/
def daysBeforeYear (y : Int) : Int := 365 * y + y / 4 - y / 100 + y / 400

/-- The days from the first of March to the first of a month, months counted from March. -/
def daysBeforeMonth (m : Nat) : Nat := (153 * m + 2) / 5

/-- The day number of a year, month and day. The year is taken to start in March, so that the leap
day is its last. -/
def ofCivil (year : Int) (month day : Nat) : Date :=
  let y := if month ≤ 2 then year - 1 else year
  let m := (month + 9) % 12
  ⟨daysBeforeYear y + daysBeforeMonth m + day - 1 - 719468⟩

/-- The year, month and day of a date. -/
def civil (d : Date) : Int × Nat × Nat :=
  let z := d.day + 719468
  let era := z / 146097
  let doe := (z % 146097).toNat
  let yoe := (doe - doe / 1460 + doe / 36524 - doe / 146096) / 365
  let doy := doe - (365 * yoe + yoe / 4 - yoe / 100)
  let mp := (5 * doy + 2) / 153
  let day := doy - daysBeforeMonth mp + 1
  let month := if mp < 10 then mp + 3 else mp - 9
  let year : Int := yoe + era * 400 + (if month ≤ 2 then 1 else 0)
  (year, month, day)

/-- The day of the week, Sunday being zero. -/
def weekday (d : Date) : Nat := ((d.day + 4) % 7).toNat

/-- The number of days of a month. -/
def monthLength (year : Int) (month : Nat) : Nat :=
  if month = 2 then
    if year % 4 = 0 ∧ (year % 100 ≠ 0 ∨ year % 400 = 0) then 29 else 28
  else if month = 4 ∨ month = 6 ∨ month = 9 ∨ month = 11 then 30 else 31

/-- The first representable day. -/
def first : Date := ofCivil (-262143) 1 1

/-- The last representable day. -/
def last : Date := ofCivil 262142 12 31

/-- Can the service handle the date? -/
def representable (d : Date) : Bool := first.day ≤ d.day && d.day ≤ last.day

/-- The date a number of days later, absent when it is not representable. -/
def shift? (d : Date) (days : Int) : Option Date :=
  let e : Date := ⟨d.day + days⟩
  if e.representable then some e else none

/-- A number with at least `width` digits. -/
def padded (width n : Nat) : List Char :=
  let ds := Nat.toDigits 10 n
  List.replicate (width - ds.length) '0' ++ ds

/-- A year with four digits. A year outside 0 to 9999 carries its sign. -/
def yearText (y : Int) : List Char :=
  if 0 ≤ y ∧ y ≤ 9999 then padded 4 y.toNat
  else (if y < 0 then '-' else '+') :: padded 4 y.natAbs

/-- A date as year, month and day. -/
def text (d : Date) : List Char :=
  let (y, m, day) := d.civil
  yearText y ++ '-' :: padded 2 m ++ '-' :: padded 2 day

/-- The date of a year, month and day, if the calendar has it. -/
def ofCivil? (year : Int) (month day : Nat) : Option Date :=
  if 1 ≤ month ∧ month ≤ 12 ∧ 1 ≤ day ∧ day ≤ monthLength year month then
    let d := ofCivil year month day
    if d.representable then some d else none
  else none

/-- A number of at least one and at most `width` digits, and the rest. -/
def scanNumber (width : Nat) (cs : List Char) : Option (Nat × List Char) :=
  let ds := (cs.take width).takeWhile Char.isDigit
  if ds.isEmpty then none
  else some (ds.foldl (fun n c => n * 10 + (c.toNat - 48)) 0, cs.drop ds.length)

/-- A year: four digits, or any number of digits after a sign. -/
def scanYear : List Char → Option (Int × List Char)
  | '-' :: r => (scanNumber r.length r).map fun (n, r) => (-(n : Int), r)
  | '+' :: r => (scanNumber r.length r).map fun (n, r) => ((n : Int), r)
  | cs => (scanNumber 4 cs).map fun (n, r) => ((n : Int), r)

/-- The text without leading blanks. -/
def skipBlank (cs : List Char) : List Char := cs.dropWhile Text.isBlank

/-- The rest of a text after a fixed character, blanks before it being passed over. -/
def scanMark (c : Char) (cs : List Char) : Option (List Char) :=
  match skipBlank cs with
  | d :: r => if c = d then some r else none
  | [] => none

/-- Read year, month and day with hyphens between them. -/
def scanCivil (cs : List Char) : Option ((Int × Nat × Nat) × List Char) := do
  let (y, r) ← scanYear (skipBlank cs)
  let r ← scanMark '-' r
  let (m, r) ← scanNumber 2 (skipBlank r)
  let r ← scanMark '-' r
  let (d, r) ← scanNumber 2 (skipBlank r)
  return ((y, m, d), r)

/-- Read a date that is the whole text. -/
def parse (s : String) : Option Date := do
  let ((y, m, d), r) ← scanCivil s.toList
  if (skipBlank r).isEmpty then ofCivil? y m d else none

end Date

end Footfall
