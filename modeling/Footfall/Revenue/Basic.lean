import Footfall.Json.Reader
import Footfall.Revenue.Source
import Footfall.Scalar
import Footfall.Session

/-!
# Revenue

Revenue is carried by custom events, as the number `revenue` of their properties. It is shown in
three views: the totals of a range, the revenue of each event name, and the revenue of each traffic
source, every session belonging to the source of its first event.

* `Event.revenue?` is the revenue of an event.
* `totals`, `eventRows` and `sourceRows` are the three views before rounding, over any number type
  and any assignment of amounts to events.
* `summarize`, `byEvent` and `bySource` are the views that are shown, rounded to cents and sorted.
-/

namespace Footfall

/-- The revenue that an event carries: the finite number `revenue` of a custom event's
properties. -/
def Event.revenue? (e : Event) : Option Float :=
  if e.kind = .custom then do
    let properties ← Json.parse (← e.properties)
    let amount ← (← properties.field? "revenue").number?
    if amount.isFinite then some amount else none
  else none

namespace Revenue

/-! ## The views before rounding -/

section

variable {α : Type} [Scalar α]

/-- The sum of amounts, added in order. -/
def total (amounts : List α) : α := amounts.foldl (· + ·) (Scalar.ofNat 0)

/-- The amounts of the events that carry one. -/
def amounts (amount : Event → Option α) (events : List Event) : List α := events.filterMap amount

/-- The totals of a range. -/
structure Totals (α : Type) where
  revenue : α
  transactions : Nat
  visitors : Nat

/-- The totals of a list of events. -/
def totals (amount : Event → Option α) (events : List Event) : Totals α :=
  { revenue := total (amounts amount events)
    transactions := (amounts amount events).length
    visitors := (distinct (events.map (·.visitorHash))).length }

/-- The revenue of an event name. -/
structure EventRow (α : Type) where
  name : String
  revenue : α
  transactions : Nat

/-- The names and amounts of the named events that carry one. -/
def namedAmounts (amount : Event → Option α) (events : List Event) : List (String × α) :=
  events.filterMap fun e =>
    match amount e, e.eventName with
    | some a, some n => some (n, a)
    | _, _ => none

/-- A row with one more named amount. -/
def EventRow.add (r : EventRow α) (named : String × α) : EventRow α :=
  { r with revenue := r.revenue + named.2, transactions := r.transactions + 1 }

/-- One row for each event name with revenue, in order of first appearance. -/
def eventRows (amount : Event → Option α) (events : List Event) : List (EventRow α) :=
  gather Prod.fst (fun name => ⟨name, Scalar.ofNat 0, 0⟩) EventRow.add (namedAmounts amount events)

/-- A session with its source and its amounts. -/
structure Attribution (α : Type) where
  source : String
  amounts : List α

/-- The sessions of a list of events with their sources and amounts. -/
def attributions (amount : Event → Option α) (events : List Event) : List (Attribution α) :=
  (Session.group events).filterMap fun s =>
    s.first?.map fun e => ⟨trafficSource e, amounts amount s.events⟩

/-- The revenue of a traffic source. -/
structure SourceRow (α : Type) where
  source : String
  revenue : α
  transactions : Nat
  sessions : Nat
  /-- The sessions with revenue. -/
  convertingSessions : Nat
  /-- The sessions with revenue in percent. -/
  conversionRate : α

/-- A row with one more session. -/
def SourceRow.add (r : SourceRow α) (a : Attribution α) : SourceRow α :=
  { r with
    revenue := r.revenue + total a.amounts
    transactions := r.transactions + a.amounts.length
    sessions := r.sessions + 1
    convertingSessions :=
      if a.amounts.isEmpty then r.convertingSessions else r.convertingSessions + 1 }

/-- A row with its rate, once all its sessions are counted. -/
def SourceRow.rated (r : SourceRow α) : SourceRow α :=
  { r with conversionRate := Scalar.percent r.convertingSessions r.sessions }

/-- One row for each source, in order of first appearance. -/
def sourceRows (amount : Event → Option α) (events : List Event) : List (SourceRow α) :=
  let zero : α := Scalar.ofNat 0
  (gather Attribution.source (fun source => ⟨source, zero, 0, 0, 0, zero⟩) SourceRow.add
    (attributions amount events)).map SourceRow.rated

end

/-! ## The views that are shown -/

/-- A number rounded to two places, halves away from zero. -/
def round2 (x : Float) : Float := (x * 100.0).round / 100.0

/-- The place of a number in the total order of floating-point numbers, in which a negative zero
is below a positive one. -/
def orderKey (x : Float) : Int :=
  let bits := x.toBits.toNat
  if bits < Nat.pow 2 63 then bits else -((bits - Nat.pow 2 63 : Nat) : Int) - 1

/-- The totals of a range as they are shown. -/
structure Metrics where
  totalRevenue : Float
  transactions : Nat
  averageOrderValue : Float
  revenuePerVisitor : Float
  uniqueVisitors : Nat

/-- A total divided by a number of things, zero if there are none. -/
def average (total : Float) (n : Nat) : Float :=
  if n = 0 then 0.0 else round2 (total / Float.ofNat n)

/-- The totals of a list of events, rounded. -/
def metrics (events : List Event) : Metrics :=
  let t := totals Event.revenue? events
  ⟨round2 t.revenue, t.transactions, average t.revenue t.transactions,
    average t.revenue t.visitors, t.visitors⟩

/-- The totals of a range and of the one before it. -/
structure Summary where
  current : Metrics
  previous : Metrics
  /-- The change of the total in percent, absent when there was no revenue before. -/
  revenueChange : Option Float

/-- The change from one total to another in percent. -/
def change (current previous : Float) : Option Float :=
  if 0.0 < previous then some (round2 (100.0 * (current - previous) / previous)) else none

/-- The totals of two lists of events and the change between them. -/
def summarize (current previous : List Event) : Summary :=
  let c := metrics current
  let p := metrics previous
  ⟨c, p, change c.totalRevenue p.totalRevenue⟩

/-- The twenty event names with the largest revenue. -/
def byEvent (events : List Event) : List (EventRow Float) :=
  let rows := sortByDesc (fun r : EventRow Float => orderKey r.revenue)
    (eventRows Event.revenue? events)
  (rows.take 20).map fun r => { r with revenue := round2 r.revenue }

/-- Does the first source come before the second, by revenue and then by sessions? -/
def outranks (a b : SourceRow Float) : Bool :=
  let x := orderKey a.revenue
  let y := orderKey b.revenue
  decide (y < x) || (x == y && decide (b.sessions ≤ a.sessions))

/-- A source as it is shown. -/
def SourceRow.rounded (r : SourceRow Float) : SourceRow Float :=
  { r with revenue := round2 r.revenue, conversionRate := round2 r.conversionRate }

/-- The sources with the largest revenue first. -/
def bySource (events : List Event) : List (SourceRow Float) :=
  ((sourceRows Event.revenue? events).map SourceRow.rounded).mergeSort outranks

end Revenue

end Footfall
