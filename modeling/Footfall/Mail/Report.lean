import Footfall.Decimal.Fixed
import Footfall.Project
import Footfall.Report.Basic

/-!
# The report as text

The text of a report e-mail: the headline figures, the peaks if there are any, and the rankings
that are not empty.
-/

namespace Footfall.Mail

/-- A number right-aligned in a column. -/
def alignedRight (width n : Nat) : String :=
  let digits := toString n
  String.ofList (List.replicate (width - digits.length) ' ') ++ digits

/-- A ranking under its title, nothing if it is empty. -/
def ranking (title : String) (rows : List Row) : List String :=
  if rows.isEmpty then []
  else "" :: title :: rows.map fun r => "  " ++ alignedRight 6 r.count ++ "  " ++ r.label

/-- An instant to the minute. -/
def minuteText (t : Timestamp) : String :=
  String.ofList (t.date.text ++ ' ' :: t.hourMinute) ++ " UTC"

/-- The peaks, as far as there are any. -/
def peakLines (p : Peaks) : List String :=
  (match p.day? with
    | some peak => ["Busiest day:      " ++ dayName peak.index]
    | none => []) ++
  match p.hour? with
    | some peak =>
      ["Busiest hour:     " ++ String.ofList (Date.padded 2 peak.index.val) ++ ":00 UTC"]
    | none => []

/-- The lines of a report. -/
def reportLines (p : Project) (r : Report Float) : List String :=
  [ p.name ++ " (" ++ p.domain ++ ")",
    minuteText r.start ++ " to " ++ minuteText r.stop,
    "",
    "Pageviews:        " ++ toString r.pageviews,
    "Unique visitors:  " ++ toString r.uniqueVisitors,
    "Sessions:         " ++ toString r.sessions.total,
    "Bounce rate:      " ++ Decimal.fixedText 1 r.bounceRate ++ "%",
    "Conversion rate:  " ++ Decimal.fixedText 1 r.conversionRate ++ "%",
    "Avg. session:     " ++ Decimal.fixedText 0 r.sessions.averageSeconds ++ "s" ] ++
  peakLines r.peaks ++
  ranking "Top pages" r.topPages ++
  ranking "Top referrers" r.referrers ++
  ranking "Countries" r.countries ++
  ranking "Custom events" r.customEvents

/-- The text of a report, every line ended. -/
def reportText (p : Project) (r : Report Float) : String :=
  String.join ((reportLines p r).map fun line => line ++ "\n")

end Footfall.Mail
