import Footfall.Funnel.Basic

/-!
# Funnel analysis

Every session is walked through the steps of a funnel. The first step is taken by the earliest
matching event that is not before the start of the range, and each further step by the earliest
matching event strictly after the one before; the walk ends at the first step without such an
event. The analysis counts, for every step, the sessions that reached it.

* `Session.walk` lists the instants at which a session takes the steps of a funnel.
* `reached` and `gaps` read the walks of all sessions step by step.
* `Funnel.analyze` is the analysis: counts, rates and mean times between steps.
-/

namespace Footfall

/-- The instants at which a session takes the given steps, by events at instants that `admits`
allows. -/
def Session.walkFrom (s : Session) (admits : Timestamp → Bool) : List FunnelStep → List Timestamp
  | [] => []
  | step :: rest =>
    match s.events.find? fun e => admits e.createdAt && step.takenBy e with
    | none => []
    | some e => e.createdAt :: s.walkFrom (fun t => decide (e.createdAt < t)) rest

/-- The instants at which a session takes the steps, from the start of the range on. -/
def Session.walk (s : Session) (start : Timestamp) (steps : List FunnelStep) : List Timestamp :=
  s.walkFrom (fun t => decide (start ≤ t)) steps

/-- The number of walks that reach the step at an index. -/
def reached (walks : List (List Timestamp)) (k : Nat) : Nat := walks.countP fun w => k < w.length

/-- The whole milliseconds from one instant to another, rounded towards zero. -/
def milliseconds (a b : Timestamp) : Int := (a.since b).tdiv 1000000

/-- The milliseconds between the step before an index and the step at it, for every walk that
reaches it. -/
def gaps (walks : List (List Timestamp)) (k : Nat) : List Int :=
  walks.filterMap fun w =>
    match w[k - 1]?, w[k]? with
    | some a, some b => some (milliseconds a b)
    | _, _ => none

/-- The result of one step. -/
structure StepResult (α : Type) where
  number : Nat
  label : String
  sessions : Nat
  /-- The sessions in percent of all sessions. -/
  conversionRate : α
  /-- The sessions lost since the step before, in percent of those that reached it. -/
  dropOffRate : α
  /-- The mean number of seconds since the step before. -/
  secondsFromPrevious : Option α

/-- The result of a funnel. -/
structure FunnelAnalysis (α : Type) where
  funnelId : String
  name : String
  totalSessions : Nat
  steps : List (StepResult α)

namespace Funnel

variable {α : Type} [Scalar α]

/-- The analysis of a funnel without steps. -/
def emptyAnalysis (f : Funnel) : FunnelAnalysis α := ⟨f.id, f.name, 0, []⟩

/-- The mean of durations in milliseconds, in seconds, absent when there are none. -/
def meanSeconds (gaps : List Int) : Option α :=
  if gaps.isEmpty then none
  else
    let sum := gaps.foldl (fun acc ms => acc + Scalar.ofInt ms / Scalar.ofNat 1000)
      (Scalar.ofNat 0 : α)
    some (sum / Scalar.ofNat gaps.length)

/-- The result of the step at an index. -/
def stepResult (walks : List (List Timestamp)) (step : FunnelStep) (k : Nat) : StepResult α :=
  let sessions := reached walks k
  let before := reached walks (k - 1)
  { number := step.number
    label := step.label
    sessions
    conversionRate := Scalar.percent sessions walks.length
    dropOffRate := if k = 0 then Scalar.ofNat 0 else Scalar.percent (before - sessions) before
    secondsFromPrevious := if k = 0 then none else meanSeconds (gaps walks k) }

/-- Walk all sessions of a list of events through the steps of a funnel. -/
def analyze (f : Funnel) (events : List Event) (start : Timestamp) : FunnelAnalysis α :=
  if f.steps.isEmpty then f.emptyAnalysis
  else
    let walks := (Session.group events).map fun s => s.walk start f.ordered
    { funnelId := f.id
      name := f.name
      totalSessions := walks.length
      steps := f.ordered.zipIdx.map fun (step, k) => stepResult walks step k }

end Funnel

end Footfall
