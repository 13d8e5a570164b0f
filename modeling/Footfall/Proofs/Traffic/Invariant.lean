import Footfall.Proofs.Traffic.Run

/-!
# What events keep of a window

What an event does to a window is one of four things (`Window.observe_cases`). From this follow a
spike's own figures (`Window.sane_of_spike?_observe`) and two invariants of the open window of a
project:

* `Follows`: the window and its baseline are what the events since tracking started have led to. The
  baseline is positive and lies between rates of windows without a spike (`Within`), because the
  first such window gives it and each later one is folded into it.
* `Placed`: among all events of the project, the window opened after the spikes, and a minute after
  the first event or later if it has a baseline.
-/

namespace Footfall.Traffic

/-! ## Closed windows -/

namespace ClosedWindow

variable {w : ClosedWindow}

theorem rate_pos (hcount : 0 < w.count) (hlong : windowLength ≤ w.nanos) : 0 < w.rate := by
  have hnanos : 0 < w.nanos := lt_of_lt_of_le (by decide) hlong
  rw [rate]
  positivity

/-- More than ten events a minute over a minute or more are at least eleven events. -/
theorem eleven_le_count (hlong : windowLength ≤ w.nanos) (hrate : 10 < w.rate) : 11 ≤ w.count := by
  have hnanos : (60 : ℚ) ≤ w.nanos / 1000000000 := by
    rw [le_div_iff₀ (by norm_num)]
    exact_mod_cast hlong
  rw [rate, lt_div_iff₀ (by linarith)] at hrate
  have hcount : (10 : ℚ) < w.count := by linarith
  exact_mod_cast hcount

end ClosedWindow

/-- A positive baseline between the rates of some windows. -/
structure Within (b : ℚ) (windows : List ClosedWindow) : Prop where
  pos : 0 < b
  above : ∃ w ∈ windows, w.rate ≤ b
  below : ∃ w ∈ windows, b ≤ w.rate

/-- The rate of the first window. -/
theorem within_rate {w : ClosedWindow} (hpos : 0 < w.rate) : Within w.rate [w] :=
  ⟨hpos, ⟨w, by simp, le_refl _⟩, ⟨w, by simp, le_refl _⟩⟩

/-- A baseline with a rate folded in lies between the two. -/
theorem Within.smoothed {b : ℚ} {windows : List ClosedWindow} {w : ClosedWindow}
    (h : Within b windows) (hpos : 0 < w.rate) :
    Within (9 / 10 * b + 1 / 10 * w.rate) (windows ++ [w]) := by
  have hb := h.pos
  obtain ⟨low, hlow, hle⟩ := h.above
  obtain ⟨high, hhigh, hge⟩ := h.below
  refine ⟨by linarith, ?_, ?_⟩ <;> rcases le_total b w.rate with hw | hw
  · exact ⟨low, List.mem_append_left _ hlow, by linarith⟩
  · exact ⟨w, by simp, by linarith⟩
  · exact ⟨w, by simp, by linarith⟩
  · exact ⟨high, List.mem_append_left _ hhigh, by linarith⟩

/-! ## One event -/

/-- The window as it is when an event closes it. -/
def Window.closedBy (w : Window ℚ) (t : Moment) : ClosedWindow := ⟨w.startedAt, t, w.count + 1⟩

/-- **What an event does to a window.** The window stays open, or it closes: it gives the first
baseline, spikes and leaves the baseline as it is, or is folded into it. -/
theorem Window.observe_cases (w : Window ℚ) (t : Moment) :
    (elapsed w.startedAt t < windowLength ∧
      w.observe t = (.pending, ⟨w.startedAt, w.count + 1, w.baseline⟩)) ∨
    windowLength ≤ elapsed w.startedAt t ∧
      (w.baseline = none ∧ w.observe t = (.settled, ⟨t, 0, some (w.closedBy t).rate⟩) ∨
      ∃ b, w.baseline = some b ∧
        ((w.closedBy t).Spikes b ∧
            w.observe t =
              (.spike (w.closedBy t).rate b (w.closedBy t).count (w.closedBy t).nanos,
                ⟨t, 0, some b⟩) ∨
          w.observe t = (.settled, ⟨t, 0, some (9 / 10 * b + 1 / 10 * (w.closedBy t).rate)⟩))) := by
  have hrate : (Window.rate (w.count + 1) (elapsed w.startedAt t) : ℚ) = (w.closedBy t).rate :=
    rate_rat ..
  by_cases hshort : elapsed w.startedAt t < windowLength
  · exact Or.inl ⟨hshort, if_pos hshort⟩
  · refine Or.inr ⟨not_lt.1 hshort, ?_⟩
    simp only [observe, if_neg hshort, hrate]
    cases w.baseline with
    | none => exact Or.inl ⟨rfl, rfl⟩
    | some b =>
      refine Or.inr ⟨b, rfl, ?_⟩
      by_cases hspike : (w.closedBy t).Spikes b
      · exact Or.inl ⟨hspike, if_pos ((isSpike_rat ..).2 hspike)⟩
      · refine Or.inr ?_
        rw [← smoothed_rat]
        exact if_neg fun h => hspike ((isSpike_rat ..).1 h)

/-- The first event of a window leaves it open. -/
theorem Window.observe_opening (t : Moment) :
    (Window.opening t : Window ℚ).observe t = (.pending, ⟨t, 1, none⟩) := by
  refine if_pos ?_
  rw [opening, elapsed_of_ge (le_refl _)]
  decide

/-- An event that spikes closes the window and leaves the baseline. -/
theorem Window.eq_of_spike?_observe {w : Window ℚ} {t : Moment} {project : String} {s : Spike ℚ}
    (h : (w.observe t).1.spike? project = some s) :
    windowLength ≤ elapsed w.startedAt t ∧ w.baseline = some s.baselineRate ∧
      (w.observe t).2.baseline = some s.baselineRate ∧ (w.closedBy t).Spikes s.baselineRate ∧
      s = ⟨project, (w.closedBy t).rate, s.baselineRate, (w.closedBy t).count,
        (w.closedBy t).nanos / 1000000000⟩ := by
  rcases w.observe_cases t with ⟨-, hw⟩ | ⟨hlong, ⟨-, hw⟩ | ⟨b, hb, ⟨hspikes, hw⟩ | hw⟩⟩ <;>
    rw [hw] at h ⊢
  · cases h
  · cases h
  · obtain rfl := Option.some.inj h
    exact ⟨hlong, hb, rfl, hspikes, rfl⟩
  · cases h

/-- A spike that is worth telling of. -/
structure Spike.Sane (s : Spike ℚ) : Prop where
  window : 60 ≤ s.windowSeconds
  events : 11 ≤ s.eventCount
  baseline : 0 < s.baselineRate
  doubled : 2 * s.baselineRate ≤ s.currentRate

/-- Spikes over a positive baseline are sane. -/
theorem Window.sane_of_spike?_observe {w : Window ℚ} {t : Moment} {project : String} {s : Spike ℚ}
    (h : (w.observe t).1.spike? project = some s) (hpos : 0 < s.baselineRate) :
    s.projectId = project ∧ s.Sane := by
  obtain ⟨hlong, -, -, hspikes, heq⟩ := eq_of_spike?_observe h
  rw [heq]
  refine ⟨rfl, ?_, ClosedWindow.eleven_le_count hlong hspikes.2, hpos, hspikes.1⟩
  exact (Nat.le_div_iff_mul_le (by decide)).2 hlong

/-! ## The windows since tracking started -/

section Quiet

variable {opened : Moment} {count : ℕ} {e : Told} {later : List Told}

theorem quietFrom_cons_of_lt (h : elapsed opened e.now < windowLength) :
    quietFrom opened count (e :: later) = quietFrom opened (count + 1) later :=
  if_pos h

theorem quietFrom_cons_of_le (h : windowLength ≤ elapsed opened e.now) :
    quietFrom opened count (e :: later) =
      (if e.spike?.isNone then [⟨opened, e.now, count + 1⟩] else []) ++ quietFrom e.now 0 later :=
  if_neg (not_lt.2 h)

end Quiet

/-- The open window of a project is what its events since tracking started have led to. -/
structure Follows (events : List Told) (w : Window ℚ) : Prop where
  /-- Later events close windows as the open window and the number of its events tell. -/
  quiet : ∀ later,
    quietOf (events ++ later) = quietOf events ++ quietFrom w.startedAt w.count later
  absent : w.baseline = none ↔ quietOf events = []
  within : ∀ b, w.baseline = some b → Within b (quietOf events)

section Follows

variable {events : List Told} {w : Window ℚ} {e : Told} {t : Moment} {project : String}

/-- Tracking starts with an open window. -/
theorem Follows.start (e : Told) : Follows [e] ⟨e.now, 1, none⟩ := by
  have hshort : elapsed e.now e.now < windowLength := by
    rw [elapsed_of_ge (le_refl _)]
    decide
  have hquiet : ∀ later, quietOf ([e] ++ later) = quietFrom e.now 1 later := fun later =>
    quietFrom_cons_of_lt hshort
  have hnil : quietOf [e] = [] := hquiet []
  exact ⟨fun later => by rw [hquiet, hnil, List.nil_append], by simp [hnil],
    fun b hb => by cases hb⟩

/-- **Every event keeps the window tied to the events.** -/
theorem Follows.observe (h : Follows events w)
    (hspike : e.spike? = (w.observe e.now).1.spike? project) :
    Follows (events ++ [e]) (w.observe e.now).2 := by
  have hall : ∀ later, quietOf (events ++ [e] ++ later) =
      quietOf events ++ quietFrom w.startedAt w.count (e :: later) := fun later => by
    rw [List.append_assoc, h.quiet]
    rfl
  have hone := hall []
  rw [List.append_nil] at hone
  rcases w.observe_cases e.now with ⟨hshort, hw⟩ | ⟨hlong, hclosed⟩
  · have hsame : quietOf (events ++ [e]) = quietOf events := by
      rw [hone, quietFrom_cons_of_lt hshort]
      exact List.append_nil _
    rw [hw]
    refine ⟨fun later => ?_, hsame ▸ h.absent, hsame ▸ h.within⟩
    rw [hall, hsame, quietFrom_cons_of_lt hshort]
  · have hrate : 0 < (w.closedBy e.now).rate := ClosedWindow.rate_pos (Nat.succ_pos _) hlong
    have hnow : ∀ later, quietOf (events ++ [e] ++ later) =
        quietOf (events ++ [e]) ++ quietFrom e.now 0 later := fun later => by
      rw [hall, hone, quietFrom_cons_of_le hlong, quietFrom_cons_of_le hlong]
      simp [quietFrom]
    have hadd : quietOf (events ++ [e]) =
        quietOf events ++ if e.spike?.isNone then [w.closedBy e.now] else [] := by
      rw [hone, quietFrom_cons_of_le hlong]
      exact congrArg _ (List.append_nil _)
    rcases hclosed with ⟨hnone, hw⟩ | ⟨b, hb, ⟨-, hw⟩ | hw⟩ <;> rw [hw] at hspike ⊢
    · -- the first window gives the baseline
      rw [hspike, h.absent.1 hnone] at hadd
      refine ⟨hnow, by simp [hadd, Observation.spike?], fun b hb => ?_⟩
      obtain rfl := Option.some.inj hb
      rw [hadd]
      exact within_rate hrate
    · -- a spike leaves the baseline and adds no window
      rw [hspike] at hadd
      have hsame : quietOf (events ++ [e]) = quietOf events := hadd.trans (List.append_nil _)
      refine ⟨hnow, ?_, fun b' hb' => ?_⟩
      · rw [hsame, ← h.absent, hb]
      · rw [hsame]
        exact h.within b' (hb.trans hb')
    · -- a quiet window is folded into the baseline
      rw [hspike] at hadd
      refine ⟨hnow, by simp [hadd, Observation.spike?], fun b' hb' => ?_⟩
      obtain rfl := Option.some.inj hb'
      rw [hadd]
      exact (h.within b hb).smoothed hrate

end Follows

/-! ## The window among all events -/

/-- The open window opened after the spikes of its project, and a window after the first event if
there is a baseline. -/
structure Placed (events : List Told) (w : Window ℚ) : Prop where
  ne : events ≠ []
  spikes : ∀ e ∈ events, e.spike?.isSome = true → e.now ≤ w.startedAt
  first : ∀ e ∈ events.head?, e.now ≤ w.startedAt
  settled : ∀ e ∈ events.head?, w.baseline.isSome = true → e.now + windowLength ≤ w.startedAt

section Placed

variable {events : List Told} {w : Window ℚ} {e : Told} {project : String} {s : Spike ℚ}

theorem add_windowLength_le {a b : Moment} (h : windowLength ≤ elapsed a b) :
    a + windowLength ≤ b :=
  add_le_of_le_elapsed (by decide) h

theorem Placed.start (horder : ∀ f ∈ events, f.now ≤ e.now) :
    Placed (events ++ [e]) ⟨e.now, 1, none⟩ := by
  have hall : ∀ f ∈ events ++ [e], f.now ≤ e.now := by
    simpa [or_imp, forall_and] using horder
  exact ⟨by simp, fun f hf _ => hall f hf, fun f hf => hall f (List.mem_of_head? hf),
    fun _ _ h => by cases h⟩

/-- **Every event keeps the window in its place.** -/
theorem Placed.observe (h : Placed events w) (horder : ∀ f ∈ events, f.now ≤ e.now)
    (hspike : e.spike? = (w.observe e.now).1.spike? project) :
    Placed (events ++ [e]) (w.observe e.now).2 := by
  have hne : events ++ [e] ≠ [] := by simp
  have hhead : (events ++ [e]).head? = events.head? := by
    obtain ⟨f, r, rfl⟩ := List.exists_cons_of_ne_nil h.ne
    rfl
  have hall : ∀ f ∈ events ++ [e], f.now ≤ e.now := by
    simpa [or_imp, forall_and] using horder
  rcases w.observe_cases e.now with ⟨-, hw⟩ | ⟨hlong, hclosed⟩
  · rw [hw] at hspike ⊢
    refine ⟨hne, fun f hf hfspike => ?_, hhead ▸ h.first, hhead ▸ h.settled⟩
    rcases List.mem_append.1 hf with hf | hf
    · exact h.spikes f hf hfspike
    · obtain rfl := List.mem_singleton.1 hf
      rw [hspike] at hfspike
      cases hfspike
  · -- however the window closes, the next one opens with the event
    have hopened : (w.observe e.now).2.startedAt = e.now := by
      rcases hclosed with ⟨-, hw⟩ | ⟨b, -, ⟨-, hw⟩ | hw⟩ <;> rw [hw]
    have hlate : ∀ f ∈ (events ++ [e]).head?, f.now + windowLength ≤ e.now := fun f hf => by
      have hfirst := h.first f (hhead ▸ hf)
      have hminute := add_windowLength_le hlong
      linarith
    refine ⟨hne, ?_, ?_, ?_⟩ <;> rw [hopened]
    · exact fun f hf _ => hall f hf
    · exact fun f hf => hall f (List.mem_of_head? hf)
    · exact fun f hf _ => hlate f hf

/-- A spike comes at least a minute after every earlier one, and two minutes after the first
event. -/
theorem Placed.le_of_spike {now : Moment} (h : Placed events w)
    (hspike : (w.observe now).1.spike? project = some s) :
    (∀ f ∈ events, f.spike?.isSome = true → f.now + windowLength ≤ now) ∧
      ∀ f ∈ events.head?, f.now + 2 * windowLength ≤ now := by
  obtain ⟨hlong, hbaseline, -⟩ := Window.eq_of_spike?_observe hspike
  have hminute := add_windowLength_le hlong
  constructor
  · intro f hf hfspike
    have hle := h.spikes f hf hfspike
    linarith
  · intro f hf
    have hle := h.settled f hf (by rw [hbaseline]; rfl)
    linarith

end Placed

end Footfall.Traffic
