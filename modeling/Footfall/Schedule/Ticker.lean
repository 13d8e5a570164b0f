/-!
# Periodic tasks

A task runs once every period, the first time one period after it was started. A run that takes
longer than the period delays the next one: that starts as soon as the late run is over, and from
then on the periods are counted anew.

* `starts` lists the instants at which the runs of a task start.
* `runsBy` counts them up to an instant.
-/

namespace Footfall.Schedule

/-- A start this many milliseconds late does not yet count the periods anew. -/
def tolerance : Nat := 5

/-- The deadline after a run that was due at `deadline` and started at `start`. -/
def nextDeadline (period deadline start : Nat) : Nat :=
  if deadline + tolerance < start then start + period else deadline + period

/-- The starts up to `limit` of at most `fuel` runs, from the `n`-th on. It is due at `deadline`,
and the run before is over at `free`; `duration` says how long each run takes. -/
def startsFrom (period : Nat) (duration : Nat → Nat) (limit : Nat) :
    Nat → Nat → Nat → Nat → List Nat
  | 0, _, _, _ => []
  | fuel + 1, n, deadline, free =>
    let start := max deadline free
    if limit < start then []
    else
      start :: startsFrom period duration limit fuel (n + 1) (nextDeadline period deadline start)
        (start + duration n)

/-- The milliseconds after its start at which the runs of a task start, up to `limit`. A task
without a period never runs; otherwise there are at most `limit` runs. -/
def starts (period : Nat) (duration : Nat → Nat) (limit : Nat) : List Nat :=
  if period = 0 then []
  else startsFrom period duration limit (limit / period + 1) 0 period 0

/-- The number of runs that started up to an instant. -/
def runsBy (period : Nat) (duration : Nat → Nat) (limit : Nat) : Nat :=
  (starts period duration limit).length

end Footfall.Schedule
