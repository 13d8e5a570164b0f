import Footfall.Proofs.Traffic.Invariant

/-!
# Spikes and baselines of a run

Webhooks are told of spikes, so these must not come in floods, and rates must not be compared with a
baseline that means nothing. `Detector.sane_of_inOrder`: in every run of the detector, whatever
expires or is driven out,

* a spike is over a window of at least a minute with at least eleven events, and over a positive
  baseline that it at least doubles;
* spikes of a project are at least a minute apart, and none comes earlier than two minutes after its
  first event;
* a spike leaves the baseline as it is;
* the baseline is positive and lies between rates of windows without a spike that were closed since
  tracking the project last started, and it is not lost before tracking starts anew.

The record of a run tells the open windows of the detector (`Detector.Holds`), and its own spikes
are sane and far enough apart (`Detector.Calm`). Counting an event and reading a baseline keep both,
and so every run does (`Detector.holds_after`).
-/

namespace Footfall.Traffic.Detector

/-- Every open window of a detector is what the record tells of its project. -/
def Holds (past : List Told) (d : Detector ℚ) : Prop :=
  ∀ p e, d.windows.entries.find? p = some e →
    Follows (sinceStart p past) e.value ∧ Placed (told p past) e.value

theorem holds_new : Holds [] new := fun _ _ h => by cases h

/-- The spikes of a record are sane, those of a project are a minute apart, and none comes earlier
than two minutes after the first event of its project. -/
structure Calm (past : List Told) : Prop where
  sane : ∀ e ∈ past, ∀ s ∈ e.spike?, s.projectId = e.project ∧ s.Sane
  apart : past.Pairwise fun e f : Told => e.project = f.project →
    e.spike?.isSome = true → f.spike?.isSome = true → e.now + windowLength ≤ f.now
  late : ∀ e ∈ past, e.spike?.isSome = true →
    ∃ first ∈ (told e.project past).head?, first.now + 2 * windowLength ≤ e.now

section Step

variable {past : List Told} {d : Detector ℚ} {p : String} {clock now : Moment} {s : Spike ℚ}

theorem Holds.of_live? (h : Holds past d) {e : CacheEntry (Window ℚ)}
    (hlive : d.windows.live? p clock = some e) :
    Follows (sinceStart p past) e.value ∧ Placed (told p past) e.value :=
  h p e ((Cache.live?_eq_some_iff ..).1 hlive).1

/-- The window in which an event is counted is just opened, or the one that the record tells of. -/
theorem Holds.windowAt (h : Holds past d) (p : String) (clock now : Moment) :
    (d.answer p clock now).starts = true ∧ d.windowAt p clock now = .opening now ∨
      (d.answer p clock now).starts = false ∧
        Follows (sinceStart p past) (d.windowAt p clock now) ∧
        Placed (told p past) (d.windowAt p clock now) := by
  rw [answer, Detector.windowAt]
  cases hlive : d.windows.live? p clock with
  | none => exact Or.inl ⟨rfl, rfl⟩
  | some e => exact Or.inr ⟨rfl, h.of_live? hlive⟩

/-- **Counting an event** leaves windows of which the record with this event tells. -/
theorem Holds.record (h : Holds past d) (horder : ∀ f ∈ told p past, f.now ≤ now) :
    Holds (past ++ [d.answer p clock now]) (d.record p clock now).2 := by
  have hspike : (d.answer p clock now).spike? = (d.observed p clock now).1.spike? p := record_fst
  intro j x hx
  rcases find?_record hx with ⟨rfl, hvalue⟩ | ⟨hj, hold⟩
  · have hproject : (d.answer j clock now).project = j := rfl
    rw [hvalue, sinceStart_concat, told_concat, if_pos hproject, if_pos hproject]
    rcases h.windowAt j clock now with ⟨hstarts, hopening⟩ | ⟨hstarts, hfollows, hplaced⟩
    · rw [observed, hopening, Window.observe_opening, if_pos hstarts]
      exact ⟨.start (d.answer j clock now), .start horder⟩
    · rw [hstarts]
      exact ⟨hfollows.observe hspike, hplaced.observe horder hspike⟩
  · have hproject : (d.answer p clock now).project ≠ j := Ne.symm hj
    rw [sinceStart_concat, told_concat, if_neg hproject, if_neg hproject]
    exact h j x hold

theorem Holds.baseline (h : Holds past d) : Holds past (d.baseline p clock).2 := by
  intro j x hx
  obtain ⟨e, he, hvalue⟩ := find?_baseline hx
  exact hvalue ▸ h j e he

/-- A spike is sane, and comes late enough after the events that the record tells of. -/
theorem Holds.of_spike (h : Holds past d) (hs : (d.record p clock now).1 = some s) :
    (s.projectId = p ∧ s.Sane) ∧
      (∀ f ∈ told p past, f.spike?.isSome = true → f.now + windowLength ≤ now) ∧
      ∃ first ∈ (told p past).head?, first.now + 2 * windowLength ≤ now := by
  rw [record_fst, observed] at hs
  rcases h.windowAt p clock now with ⟨-, hopening⟩ | ⟨-, hfollows, hplaced⟩
  · rw [hopening, Window.observe_opening] at hs
    cases hs
  · obtain ⟨-, hbaseline, -⟩ := Window.eq_of_spike?_observe hs
    obtain ⟨hapart, hlate⟩ := hplaced.le_of_spike hs
    obtain ⟨first, hfirst⟩ := Option.isSome_iff_exists.1 (List.isSome_head?.2 hplaced.ne)
    exact ⟨Window.sane_of_spike?_observe hs (hfollows.within _ hbaseline).pos, hapart,
      first, hfirst, hlate first hfirst⟩

/-- **Counting an event** keeps the record calm. -/
theorem Calm.record (hcalm : Calm past) (h : Holds past d) :
    Calm (past ++ [d.answer p clock now]) where
  sane := by
    intro e he s hs
    rcases List.mem_append.1 he with he | he
    · exact hcalm.sane e he s hs
    · obtain rfl := List.mem_singleton.1 he
      exact (h.of_spike hs).1
  apart := by
    refine List.pairwise_append.2 ⟨hcalm.apart, List.pairwise_singleton .., ?_⟩
    intro f hf e he hproject hfspike hespike
    obtain rfl := List.mem_singleton.1 he
    obtain ⟨s, hs⟩ := Option.isSome_iff_exists.1 hespike
    exact (h.of_spike hs).2.1 f (mem_told.2 ⟨hf, hproject⟩) hfspike
  late := by
    -- the first event of a project stays the first
    have hlift : ∀ e : Told, (∃ first ∈ (told e.project past).head?,
        first.now + 2 * windowLength ≤ e.now) →
        ∃ first ∈ (told e.project (past ++ [d.answer p clock now])).head?,
          first.now + 2 * windowLength ≤ e.now := by
      rintro e ⟨first, hfirst, hle⟩
      refine ⟨first, ?_, hle⟩
      rw [told_append, List.head?_append, Option.mem_def.1 hfirst]
      rfl
    intro e he hspike
    rcases List.mem_append.1 he with he | he
    · exact hlift e (hcalm.late e he hspike)
    · obtain rfl := List.mem_singleton.1 he
      obtain ⟨s, hs⟩ := Option.isSome_iff_exists.1 hspike
      exact hlift _ (h.of_spike hs).2.2

/-- A baseline that is read lies between rates of the windows closed without a spike. -/
theorem Holds.within (h : Holds past d) {b : ℚ} (hb : (d.baseline p clock).1 = some b) :
    Within b (quietWindows p past) := by
  rw [baseline_fst] at hb
  obtain ⟨e, hlive, hbaseline⟩ := Option.bind_eq_some_iff.1 hb
  exact (h.of_live? hlive).1.within b hbaseline

/-- A tracked project has a baseline if and only if a window of it was closed without a spike. -/
theorem Holds.isSome_baseline_iff (h : Holds past d)
    (hlive : (d.windows.live? p clock).isSome = true) :
    (d.baseline p clock).1.isSome = true ↔ quietWindows p past ≠ [] := by
  obtain ⟨e, he⟩ := Option.isSome_iff_exists.1 hlive
  have hfollows := (h.of_live? he).1
  rw [baseline_fst, he, quietWindows, ne_eq, ← hfollows.absent, Option.isSome_iff_ne_none]
  rfl

/-- While tracking does not start anew, the windows that the baseline is made of stay. -/
theorem Holds.quietWindows_append_ne_nil (h : Holds past d) {later : List Told}
    (hb : (d.baseline p clock).1.isSome = true)
    (hlater : ∀ e ∈ later, e.project = p → e.starts = false) :
    quietWindows p (past ++ later) ≠ [] := by
  obtain ⟨b, hb⟩ := Option.isSome_iff_exists.1 hb
  obtain ⟨w, hw, -⟩ := (h.within hb).above
  rw [baseline_fst] at hb
  obtain ⟨e, hlive, -⟩ := Option.bind_eq_some_iff.1 hb
  rw [quietWindows, sinceStart_append hlater, (h.of_live? hlive).1.quiet]
  exact List.append_ne_nil_of_left_ne_nil (List.ne_nil_of_mem hw) _

/-- A spike leaves the baseline as it is. -/
theorem baseline_of_spike (hexpiry : d.windows.expiry = .afterAccess idleExpiry)
    (hs : (d.record p clock now).1 = some s) :
    (d.baseline p clock).1 = some s.baselineRate ∧
      ∀ later, elapsed clock later < idleExpiry →
        ((d.record p clock now).2.baseline p later).1 = some s.baselineRate := by
  have hobserved := hs
  rw [record_fst, observed] at hobserved
  obtain ⟨-, hbefore, hafter, -⟩ := Window.eq_of_spike?_observe hobserved
  constructor
  · rw [baseline_fst]
    rw [Detector.windowAt] at hbefore
    cases hlive : d.windows.live? p clock with
    | none => rw [hlive] at hbefore; cases hbefore
    | some e => rw [hlive] at hbefore; exact hbefore
  · intro later hlater
    have hexpiry' : (d.record p clock now).2.windows.expiry = .afterAccess idleExpiry :=
      (expiry_step (.record p clock now)).trans hexpiry
    have hlive : (d.record p clock now).2.windows.live? p later =
        some ⟨(d.observed p clock now).2, clock⟩ := by
      refine (Cache.live?_eq_some_iff ..).2 ⟨find?_record_self hexpiry, ?_⟩
      rw [hexpiry']
      exact hlater
    rw [baseline_fst, hlive]
    exact hafter

end Step

/-! ## The run -/

/-- **Every run in order** leaves a calm record, and windows of which the record tells. -/
theorem holds_after {calls : List Call} (h : InOrder calls) :
    Holds (new.trace calls) (new.after calls) ∧ Calm (new.trace calls) := by
  induction calls using List.reverseRecOn with
  | nil => exact ⟨holds_new, by simp [trace], .nil, by simp [trace]⟩
  | append_singleton calls call ih =>
    obtain ⟨hholds, hcalm⟩ := ih h.of_append
    have horder := new.pairwise_trace h
    rw [trace_append, trace_singleton] at horder ⊢
    rw [after_append]
    cases call with
    | record p clock now =>
      refine ⟨hholds.record fun f hf => ?_, hcalm.record hholds⟩
      obtain ⟨hmem, hproject⟩ := mem_told.1 hf
      exact (List.pairwise_append.1 horder).2.2 f hmem _ (List.mem_singleton_self _) hproject
    | baseline p clock =>
      rw [step, List.append_nil]
      exact ⟨hholds.baseline, hcalm⟩

/-- A run whose spikes and baselines are sane. -/
structure Sane (calls : List Call) : Prop where
  calm : Calm (new.trace calls)
  /-- If the next event spikes, it leaves the baseline as it is. -/
  unchanged : ∀ p clock now, ∀ s ∈ ((new.after calls).record p clock now).1,
    ((new.after calls).baseline p clock).1 = some s.baselineRate ∧
      ∀ later, elapsed clock later < idleExpiry →
        ((new.after (calls ++ [.record p clock now])).baseline p later).1 = some s.baselineRate
  within : ∀ p clock, ∀ b ∈ ((new.after calls).baseline p clock).1,
    Within b (quietWindows p (new.trace calls))
  /-- A project that had a baseline, is tracked, and has not started anew in between, has one. -/
  kept : ∀ before more, calls = before ++ more → ∀ p clock later,
    ((new.after before).baseline p clock).1.isSome = true →
    (∀ e ∈ (new.after before).trace more, e.project = p → e.starts = false) →
    ((new.after calls).windows.live? p later).isSome = true →
    ((new.after calls).baseline p later).1.isSome = true

/-- **Spikes and baselines are sane in every run** in which the instants of the events of a project
do not decrease, for any number of projects, and whatever expires or is driven out. -/
theorem sane_of_inOrder (calls : List Call) (h : InOrder calls) : Sane calls where
  calm := (holds_after h).2
  unchanged := by
    intro p clock now s hs
    rw [after_append]
    exact baseline_of_spike (expiry_after new calls) hs
  within := fun _ _ _ hb => (holds_after h).1.within hb
  kept := by
    rintro before more rfl p clock later hbefore hcontinues hlive
    rw [(holds_after h).1.isSome_baseline_iff hlive, trace_append]
    exact (holds_after h.of_append).1.quietWindows_append_ne_nil hbefore hcontinues

/-- A minute with two events, and then eleven events in a minute, while another project starts. -/
def burst : List Call :=
  [.record "a" 0 0, .record "a" 60000000000 60000000000, .record "b" 61000000000 61000000000] ++
    (List.replicate 10 (.record "a" 62000000000 62000000000)) ++
    [.baseline "a" 63000000000, .record "a" 120000000000 120000000000]

/-- The last event of the burst spikes, and the first minute gave the baseline. -/
theorem sane_of_inOrder_burst :
    InOrder burst ∧ Sane burst ∧
      (new.trace burst).map (fun e => e.spike?.map (·.baselineRate)) =
        List.replicate 13 none ++ [some 2] := by
  have horder : InOrder burst := by decide
  exact ⟨horder, sane_of_inOrder burst horder, by decide +kernel⟩

end Footfall.Traffic.Detector
