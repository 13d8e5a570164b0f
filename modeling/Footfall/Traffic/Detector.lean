import Footfall.Cache
import Footfall.Traffic.Window

/-!
# Detecting traffic spikes

The windows of all projects are kept in a cache. A project without events for ten minutes is
forgotten, together with its baseline. The cache ages its entries by the clock; the instant of an
event is given separately.

* `Detector.record` counts an event of a project and gives the spike that it completes, if any.
* `Detector.baseline` reads the baseline of a project, which counts as a use of its entry.
-/

namespace Footfall.Traffic

/-- Projects without events for this long, in nanoseconds, are forgotten: ten minutes. -/
def idleExpiry : Nat := 600 * 1000000000

/-- The largest number of projects that are tracked. -/
def maxProjects : Nat := 10000

/-- A spike in the traffic of a project. -/
structure Spike (α : Type) where
  projectId : String
  currentRate : α
  baselineRate : α
  eventCount : Nat
  windowSeconds : Nat

/-- The windows of all projects. -/
structure Detector (α : Type) where
  windows : Cache String (Window α)

namespace Detector

variable {α : Type} [Scalar α]

/-- A detector that tracks nothing. -/
def new : Detector α := ⟨Cache.empty (.afterAccess idleExpiry) maxProjects⟩

/-- Count an event that happens at `now`, while the clock reads `clock`. -/
def record (d : Detector α) (projectId : String) (clock now : Moment) :
    Option (Spike α) × Detector α :=
  let (window, windows) := d.windows.getOrInsertWith projectId (fun _ => Window.opening now) clock
  let (seen, window) := window.observe now
  let d : Detector α := ⟨windows.adjust projectId fun _ => window⟩
  match seen with
  | .spike rate baseline count nanos =>
    (some ⟨projectId, rate, baseline, count, nanos / 1000000000⟩, d)
  | .pending => (none, d)
  | .settled => (none, d)

/-- The baseline of a project. -/
def baseline (d : Detector α) (projectId : String) (clock : Moment) : Option α × Detector α :=
  let (window, windows) := d.windows.get projectId clock
  (window.bind Window.baseline, ⟨windows⟩)

/-- The number of projects that are tracked. -/
def tracked (d : Detector α) : Nat := d.windows.size

end Detector

end Footfall.Traffic
