import Footfall.Error
import Footfall.Ranking
import Footfall.Scalar
import Footfall.Text.Quoted
import Footfall.Time.Timestamp

/-!
# Time series and the calendar

Page views are counted in buckets of an hour, a day or a week. A time series shows the buckets of
a chosen range in order; the calendar shows one row for each of the 365 days that end today, with
a level of intensity relative to the busiest day.

* `Granularity` is the width of a bucket, and `Granularity.bucket` the start of the bucket of an
  instant.
* `TimeFilter` is a range that ends now, with its names (`TimeFilter.name`, `TimeFilter.parse`).
* `timeSeries`, `calendarRange` and `calendar` are what the dashboard shows. What would leave the
  representable years is absent.
-/

namespace Footfall

/-- The width of a bucket. Weeks start on Monday. -/
inductive Granularity where
  | hour
  | day
  | week
  deriving DecidableEq, Repr

namespace Granularity

/-- The name of a width. -/
def name : Granularity → String
  | .hour => "hour"
  | .day => "day"
  | .week => "week"

/-- The start of the bucket that an instant belongs to. -/
def bucket (g : Granularity) (t : Timestamp) : Timestamp :=
  match g with
  | .hour => ⟨t.seconds / 3600 * 3600, 0⟩
  | .day => Timestamp.ofDate t.date
  | .week => Timestamp.ofDate ⟨t.date.day - ((t.date.weekday + 6) % 7 : Nat)⟩

end Granularity

/-- A range of the dashboard that ends now. -/
inductive TimeFilter where
  | last24Hours
  | last3Days
  | last7Days
  | last30Days
  | last365Days
  deriving DecidableEq, Repr

namespace TimeFilter

/-- The name of a range. -/
def name : TimeFilter → String
  | .last24Hours => "24h"
  | .last3Days => "3d"
  | .last7Days => "7d"
  | .last30Days => "30d"
  | .last365Days => "365d"

/-- All ranges. -/
def all : List TimeFilter := [.last24Hours, .last3Days, .last7Days, .last30Days, .last365Days]

/-- The range that a text names. -/
def parse (raw : String) : Except DomainError TimeFilter :=
  let given := Text.trim raw
  match all.find? fun f => f.name == given with
  | some f => .ok f
  | none =>
    .error (.invalidFilter
      ("filter must be one of 24h, 3d, 7d, 30d, 365d (got " ++ Text.quoted given ++ ")"))

/-- The width of the buckets of a range. -/
def granularity : TimeFilter → Granularity
  | .last24Hours => .hour
  | .last3Days => .day
  | .last7Days => .day
  | .last30Days => .week
  | .last365Days => .week

/-- The length of a range in seconds. -/
def seconds : TimeFilter → Int
  | .last24Hours => 24 * 3600
  | .last3Days => 3 * 86400
  | .last7Days => 7 * 86400
  | .last30Days => 30 * 86400
  | .last365Days => 365 * 86400

/-- The range that ends now. -/
def rangeEnding (f : TimeFilter) (now : Timestamp) : Option (Timestamp × Timestamp) :=
  (now.shift? (-(f.seconds * Timestamp.second))).map fun start => (start, now)

end TimeFilter

/-- The counts of a bucket. -/
structure GroupCount where
  /-- The start of the bucket. -/
  bucket : Timestamp
  events : Int
  visitors : Int
  deriving DecidableEq, Repr

/-- The points of a time series: the counts in order of time. -/
def timeSeries (counts : List GroupCount) : List GroupCount := sortBy GroupCount.bucket counts

/-- The range of equal length that ends just before another one, a microsecond apart. -/
def previousPeriod (start stop : Timestamp) : Option (Timestamp × Timestamp) := do
  let length := start.since stop
  let previousStop ← start.shift? (-Timestamp.microsecond)
  let previousStart ← previousStop.shift? (-length)
  return (previousStart, previousStop)

/-! ## The calendar -/

/-- The number of days of the calendar. -/
def calendarDays : Nat := 365

/-- A row of the calendar. -/
structure CalendarDay where
  date : Date
  visits : Int
  uniqueVisitors : Int
  /-- From 0 to 4. -/
  level : Nat
  deriving DecidableEq, Repr

/-- How intense a number of visits is, relative to the largest: none, and the four quarters. -/
def intensity (α : Type) [Scalar α] (visits largest : Int) : Nat :=
  if visits ≤ 0 ∨ largest ≤ 0 then 0
  else
    let ratio : α := Scalar.ofInt visits / Scalar.ofInt largest
    if ratio ≤ Scalar.ofNat 1 / Scalar.ofNat 4 then 1
    else if ratio ≤ Scalar.ofNat 1 / Scalar.ofNat 2 then 2
    else if ratio ≤ Scalar.ofNat 3 / Scalar.ofNat 4 then 3
    else 4

/-- The first instant of the first day of the calendar, and the last microsecond of today. -/
def calendarRange (today : Date) : Option (Timestamp × Timestamp) := do
  let firstDay ← today.shift? (-(calendarDays - 1 : Nat))
  let tomorrow ← today.shift? 1
  let stop ← (Timestamp.ofDate tomorrow).shift? (-Timestamp.microsecond)
  return (Timestamp.ofDate firstDay, stop)

/-- The largest number of events of a bucket, zero without buckets. -/
def largestCount : List GroupCount → Int
  | [] => 0
  | c :: r => r.foldl (fun m d => max m d.events) c.events

/-- The counts of a date. Of several the last one holds. -/
def countOf (date : Date) (counts : List GroupCount) : Option GroupCount :=
  counts.reverse.find? fun c => c.bucket.date = date

/-- The row of a date. -/
def calendarRow (α : Type) [Scalar α] (counts : List GroupCount) (date : Date) : CalendarDay :=
  let (visits, visitors) :=
    match countOf date counts with
    | some c => (c.events, c.visitors)
    | none => (0, 0)
  ⟨date, visits, visitors, intensity α visits (largestCount counts)⟩

/-- One row for each of the days that end today, the oldest first. -/
def calendar (α : Type) [Scalar α] (today : Date) (counts : List GroupCount) :
    Option (List CalendarDay) :=
  (List.range calendarDays).reverse.mapM fun (back : Nat) =>
    (today.shift? (-(back : Int))).map (calendarRow α counts)

end Footfall
