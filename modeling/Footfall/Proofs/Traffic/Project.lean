import Footfall.Proofs.Time
import Footfall.Proofs.Traffic.Batch

/-!
# Watching one project

The detector keeps an entry for each project: the open window and the moment of the last event.
`watch` is what it answers to the events of one project if nothing else happens, in exact rationals.
The open window is told by the windows of the piece that have closed, the instant at which it opened
and the number of its events so far (`windowOf`), and each event keeps it so (`observe_pending`,
`observe_closing`). By induction on the events of a piece, and then on the pieces, the answers are
those of the batch definition (`watch_eq`).
-/

namespace Footfall.Traffic

/-! ## Rates in exact rationals -/

theorem rate_rat (count nanos : ℕ) :
    (Window.rate count nanos : ℚ) = 60 * count / (nanos / 1000000000) := by
  have h : (Window.rate count nanos : ℚ) = count / (Scalar.seconds nanos / 60) := rfl
  rw [h, Scalar.seconds_rat, div_div_eq_mul_div, mul_comm]

theorem isSpike_rat (rate baseline : ℚ) :
    Window.isSpike rate baseline = true ↔ 2 * baseline ≤ rate ∧ 10 < rate := by
  rw [Window.isSpike, Bool.and_eq_true, decide_eq_true_eq, decide_eq_true_eq]
  rfl

theorem smoothed_rat (baseline rate : ℚ) :
    Window.smoothed baseline rate = 9 / 10 * baseline + 1 / 10 * rate := by
  have h : Window.smoothed baseline rate = (1 - 1 / 10) * baseline + 1 / 10 * rate := rfl
  rw [h]
  norm_num

/-! ## One window after the other -/

/-- The spike that an observation shows. -/
def Observation.spike? (project : String) : Observation ℚ → Option (Spike ℚ)
  | .spike rate baseline count nanos => some ⟨project, rate, baseline, count, nanos / 1000000000⟩
  | _ => none

/-- The baseline after some windows of a piece. -/
def baselineAfter? : List ClosedWindow → Option ℚ
  | [] => none
  | first :: later => some (baselineOf first later)

/-- The open window after some windows of a piece, with a number of events so far. -/
def windowOf (earlier : List ClosedWindow) (opened : Moment) (count : Nat) : Window ℚ :=
  ⟨opened, count, baselineAfter? earlier⟩

theorem baselineOf_concat (first : ClosedWindow) (later : List ClosedWindow) (w : ClosedWindow) :
    baselineOf first (later ++ [w]) =
      if w.Spikes (baselineOf first later) then baselineOf first later
      else 9 / 10 * baselineOf first later + 1 / 10 * w.rate := by
  simp [baselineOf]

variable {earlier : List ClosedWindow} {opened t : Moment} {count : Nat}

theorem observe_pending (h : elapsed opened t < windowLength) :
    (windowOf earlier opened count).observe t = (.pending, windowOf earlier opened (count + 1)) :=
  if_pos h

/-- An event that closes the window shows the spike of the batch definition, and opens the next
window. -/
theorem observe_closing (project : String) (earlier : List ClosedWindow) (count : Nat)
    (h : ¬ elapsed opened t < windowLength) :
    ((windowOf earlier opened count).observe t).1.spike? project =
        spikeOf? project earlier ⟨opened, t, count + 1⟩ ∧
      ((windowOf earlier opened count).observe t).2 =
        windowOf (earlier ++ [⟨opened, t, count + 1⟩]) t 0 := by
  set w : ClosedWindow := ⟨opened, t, count + 1⟩
  have hrate : (Window.rate (count + 1) (elapsed opened t) : ℚ) = w.rate := rate_rat ..
  cases earlier with
  | nil =>
    have hobserve : (windowOf [] opened count).observe t =
        (.settled, ⟨t, 0, some (Window.rate (count + 1) (elapsed opened t))⟩) := if_neg h
    rw [hobserve, hrate]
    exact ⟨rfl, rfl⟩
  | cons first later =>
    set b := baselineOf first later with hb
    have hobserve : (windowOf (first :: later) opened count).observe t =
        if Window.isSpike (Window.rate (count + 1) (elapsed opened t)) b then
          (.spike (Window.rate (count + 1) (elapsed opened t)) b w.count w.nanos, ⟨t, 0, some b⟩)
        else
          (.settled,
            ⟨t, 0, some (Window.smoothed b (Window.rate (count + 1) (elapsed opened t)))⟩) :=
      if_neg h
    rw [hobserve, hrate, smoothed_rat, spikeOf?, List.cons_append, windowOf, baselineAfter?,
      baselineOf_concat, ← hb]
    by_cases hspikes : w.Spikes b
    · rw [if_pos ((isSpike_rat ..).2 hspikes), if_pos hspikes, if_pos hspikes]
      exact ⟨rfl, rfl⟩
    · rw [if_neg fun hspike => hspikes ((isSpike_rat ..).1 hspike), if_neg hspikes,
        if_neg hspikes]
      exact ⟨rfl, rfl⟩

/-! ## Event by event -/

/-- The window that counts an event: that of the entry, if it has not expired, or else a new one. -/
def current (entry : Option (CacheEntry (Window ℚ))) (t : Moment) : Window ℚ :=
  match entry with
  | none => .opening t
  | some e => if elapsed e.touchedAt t < idleExpiry then e.value else .opening t

/-- The answers to the events of a project, from its entry on. -/
def watch (project : String) (entry : Option (CacheEntry (Window ℚ))) :
    List Moment → List (Option (Spike ℚ))
  | [] => []
  | t :: later =>
    ((current entry t).observe t).1.spike? project ::
      watch project (some ⟨((current entry t).observe t).2, t⟩) later

/-- The remaining events of a piece are answered as the batch definition says, and leave an entry
that was touched by the last one. -/
theorem watch_append (project : String) (earlier : List ClosedWindow) (opened : Moment)
    (count : Nat) (last : Moment) (events rest : List Moment)
    (hchain : (last :: events).IsChain fun s t => close s t) :
    ∃ w, watch project (some ⟨windowOf earlier opened count, last⟩) (events ++ rest) =
      answersFrom project earlier opened count events ++
        watch project (some ⟨w, events.getLastD last⟩) rest := by
  induction events generalizing earlier opened count last with
  | nil => exact ⟨_, rfl⟩
  | cons t later ih =>
    rw [List.isChain_cons_cons] at hchain
    have hcurrent : current (some ⟨windowOf earlier opened count, last⟩) t =
        windowOf earlier opened count := if_pos (of_decide_eq_true hchain.1)
    rw [List.cons_append, watch, hcurrent, answersFrom]
    by_cases h : elapsed opened t < windowLength
    · rw [observe_pending h, if_pos h]
      obtain ⟨w, hw⟩ := ih earlier opened (count + 1) t hchain.2
      refine ⟨w, ?_⟩
      dsimp only
      rw [hw, List.getLastD_cons]
      rfl
    · obtain ⟨hspike, hwindow⟩ := observe_closing project earlier count h
      obtain ⟨w, hw⟩ := ih (earlier ++ [⟨opened, t, count + 1⟩]) t 0 t hchain.2
      rw [if_neg h, hspike, hwindow]
      refine ⟨w, ?_⟩
      rw [hw, List.getLastD_cons]
      rfl

/-- The pieces are answered one by one, if the entry has expired at the first event. -/
theorem watch_flatten (project : String) (pieces : List (List Moment)) (hne : [] ∉ pieces)
    (hchain : ∀ piece ∈ pieces, piece.IsChain fun s t => close s t)
    (hgap : pieces.IsChain fun a b => ∃ ha hb, close (a.getLast ha) (b.head hb) = false)
    (entry : Option (CacheEntry (Window ℚ)))
    (hentry : ∀ t ∈ pieces.flatten.head?, current entry t = .opening t) :
    watch project entry pieces.flatten =
      pieces.flatMap fun piece =>
        match piece with
        | [] => []
        | opened :: later => answersOfPiece project [] opened (opened :: later) := by
  induction pieces generalizing entry with
  | nil => rfl
  | cons piece pieces ih =>
    rw [List.mem_cons, not_or] at hne
    cases piece with
    | nil => exact absurd rfl hne.1
    | cons t later =>
      have hopening : current entry t = windowOf [] t 0 := hentry t (by simp)
      have hpending : elapsed t t < windowLength := by
        rw [elapsed_of_ge (le_refl t)]
        decide
      obtain ⟨w, hw⟩ := watch_append project [] t 1 t later pieces.flatten
        (hchain _ (by simp))
      have hfirst : watch project entry ((t :: later) ++ pieces.flatten) =
          answersOfPiece project [] t (t :: later) ++
            watch project (some ⟨w, later.getLastD t⟩) pieces.flatten := by
        rw [← answersFrom_zero, answersFrom, if_pos hpending, List.cons_append, watch, hopening,
          observe_pending hpending, hw]
        rfl
      rw [List.flatten_cons, List.flatMap_cons, hfirst]
      congr 1
      refine ih hne.2 (fun piece hpiece => hchain piece (by simp [hpiece])) hgap.tail _ ?_
      -- the next piece begins ten minutes or more after the last event of this one
      cases pieces with
      | nil => simp
      | cons next pieces =>
        cases next with
        | nil => exact absurd (by simp) hne.2
        | cons u us =>
          obtain ⟨_, _, hexpired⟩ := (List.isChain_cons_cons.1 hgap).1
          rw [List.getLast_eq_getLastD, List.head_cons] at hexpired
          intro u' hu'
          obtain rfl : u = u' := by simpa using hu'
          exact if_neg (of_decide_eq_false hexpired)

/-- **Watching a project from its first event on gives the answers of the batch definition.** -/
theorem watch_eq (project : String) (events : List Moment) :
    watch project none events = answersOfEvents project events := by
  have h := watch_flatten project (events.splitBy close) (List.nil_notMem_splitBy _ _)
    (fun _ => List.isChain_of_mem_splitBy) (List.isChain_getLast_head_splitBy ..) none
    fun _ _ => rfl
  rwa [List.flatten_splitBy] at h

end Footfall.Traffic
