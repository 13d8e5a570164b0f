import Mathlib.Data.List.SplitBy
import Footfall.Proofs.Scalar
import Footfall.Traffic.Detector

/-!
# Spikes of a list of events

What the detector should answer to the events of one project, defined from the whole list of their
instants and not event by event. Rates are exact rationals.

* The list is split into pieces wherever ten minutes or more lie between consecutive events. Each
  piece is judged by itself.
* In a piece, `answersOfPiece` takes the events less than a minute after the window opened; the next
  event closes the window, is the last one counted in it, and opens the next window.
* `ClosedWindow.rate` is the rate of a window. The baseline for a window (`baselineOf`) is folded
  over all windows of the piece that closed before it; the first one never spikes (`spikeOf?`).

`answersFrom` is the same as a recursion on the events, with the number of events that the open
window has counted so far (`answersFrom_zero`).
-/

namespace Footfall.Traffic

/-- A window that an event closed. -/
structure ClosedWindow where
  openedAt : Moment
  closedAt : Moment
  /-- The number of its events, the closing one included. -/
  count : Nat

namespace ClosedWindow

/-- The length of the window. -/
def nanos (w : ClosedWindow) : Nat := elapsed w.openedAt w.closedAt

/-- Events per minute. -/
def rate (w : ClosedWindow) : ℚ := 60 * w.count / (w.nanos / 1000000000)

/-- Is the rate at least twice the baseline and above ten events a minute? -/
def Spikes (w : ClosedWindow) (baseline : ℚ) : Prop := 2 * baseline ≤ w.rate ∧ 10 < w.rate

instance (w : ClosedWindow) (baseline : ℚ) : Decidable (w.Spikes baseline) :=
  inferInstanceAs (Decidable (_ ∧ _))

end ClosedWindow

/-- The rate of the first window, into which the rates of the later ones that did not spike are
folded with the weight of a tenth. -/
def baselineOf (first : ClosedWindow) (later : List ClosedWindow) : ℚ :=
  later.foldl (fun b w => if w.Spikes b then b else 9 / 10 * b + 1 / 10 * w.rate) first.rate

/-- The spike that a window completes, given the windows of the piece that closed before it. -/
def spikeOf? (project : String) (earlier : List ClosedWindow) (w : ClosedWindow) :
    Option (Spike ℚ) :=
  match earlier with
  | [] => none
  | first :: later =>
    let b := baselineOf first later
    if w.Spikes b then some ⟨project, w.rate, b, w.count, w.nanos / 1000000000⟩ else none

/-- The answers to events of a piece, of which some windows have closed and one opened. -/
def answersOfPiece (project : String) (earlier : List ClosedWindow) (opened : Moment)
    (events : List Moment) : List (Option (Spike ℚ)) :=
  let during := events.takeWhile fun t => elapsed opened t < windowLength
  during.map (fun _ => none) ++
    match _h : events.dropWhile fun t => elapsed opened t < windowLength with
    | [] => []
    | closing :: later =>
      let w : ClosedWindow := ⟨opened, closing, during.length + 1⟩
      spikeOf? project earlier w :: answersOfPiece project (earlier ++ [w]) closing later
termination_by events.length
decreasing_by
  have hle : (events.dropWhile fun t => elapsed opened t < windowLength).length ≤ events.length :=
    (List.dropWhile_sublist _).length_le
  rw [_h, List.length_cons] at hle
  omega

/-- Are two consecutive events less than ten minutes apart? -/
def close (s t : Moment) : Bool := elapsed s t < idleExpiry

/-- **The answers to the events of a project.** -/
def answersOfEvents (project : String) (events : List Moment) : List (Option (Spike ℚ)) :=
  (events.splitBy close).flatMap fun piece =>
    match piece with
    | [] => []
    | opened :: later => answersOfPiece project [] opened (opened :: later)

/-! ## Event by event -/

/-- The answers to events of a piece, of which some windows have closed and one opened, which has
counted some events so far. -/
def answersFrom (project : String) (earlier : List ClosedWindow) (opened : Moment) (count : Nat) :
    List Moment → List (Option (Spike ℚ))
  | [] => []
  | t :: later =>
    if elapsed opened t < windowLength then
      none :: answersFrom project earlier opened (count + 1) later
    else
      let w : ClosedWindow := ⟨opened, t, count + 1⟩
      spikeOf? project earlier w :: answersFrom project (earlier ++ [w]) t 0 later

theorem answersFrom_eq (project : String) (earlier : List ClosedWindow) (opened : Moment)
    (count : Nat) (events : List Moment) :
    answersFrom project earlier opened count events =
      (events.takeWhile fun t => elapsed opened t < windowLength).map (fun _ => none) ++
        match events.dropWhile fun t => elapsed opened t < windowLength with
        | [] => []
        | closing :: later =>
          let w : ClosedWindow := ⟨opened, closing,
            count + (events.takeWhile fun t => elapsed opened t < windowLength).length + 1⟩
          spikeOf? project earlier w :: answersFrom project (earlier ++ [w]) closing 0 later := by
  induction events generalizing count with
  | nil => rfl
  | cons t later ih =>
    by_cases h : elapsed opened t < windowLength
    · rw [answersFrom, if_pos h, ih]
      simp only [h, decide_true, List.takeWhile_cons_of_pos, List.dropWhile_cons_of_pos,
        List.map_cons, List.cons_append, List.length_cons]
      rw [Nat.add_right_comm count 1, Nat.add_assoc count]
    · simp [answersFrom, h]

/-- Event by event, the answers to a piece are the same. -/
theorem answersFrom_zero (project : String) (earlier : List ClosedWindow) (opened : Moment)
    (events : List Moment) :
    answersFrom project earlier opened 0 events =
      answersOfPiece project earlier opened events := by
  fun_induction answersOfPiece project earlier opened events with
  | case1 earlier opened events during ih =>
    rw [answersFrom_eq]
    congr 1
    split
    · split
      · rfl
      · simp_all
    · rename_i closing later hdrop
      split
      · simp_all
      · rename_i closing' later' hdrop'
        obtain ⟨rfl, rfl⟩ : closing = closing' ∧ later = later' := by simpa [hdrop] using hdrop'
        simp only [Nat.zero_add]
        rw [ih closing later hdrop]

end Footfall.Traffic
