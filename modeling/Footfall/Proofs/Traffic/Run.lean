import Footfall.Proofs.Traffic.Detector

/-!
# Runs of the detector

A run of the detector is a list of calls, which count an event of some project or read a baseline
(`Call`). The clock by which the cache ages and the instants of the events are independent, and
entries may expire or be driven out between any two calls. A run leaves a record of the events with
their answers (`Detector.trace`) and a detector (`Detector.after`).

The windows of a project are told from the record alone. Tracking a project starts when an event
finds no live entry of it, and `sinceStart` has the events since it last did; they take turns in
closing windows as they come, and `quietWindows` are those that were closed without a spike.

A call sets the window of its own project to what its event makes of it (`Detector.find?_record`,
`Detector.observed`), and gives no other project a window that it had not before.
-/

namespace Footfall.Traffic

/-- A call of the detector, with the reading of the clock. -/
inductive Call where
  | record (project : String) (clock now : Moment)
  | baseline (project : String) (clock : Moment)

/-- The project and the instant of the event that a call counts. -/
def Call.event? : Call → Option (String × Moment)
  | .record project _ now => some (project, now)
  | .baseline .. => none

/-- The instants of the events of a project do not decrease. -/
def InOrder (calls : List Call) : Prop :=
  (calls.filterMap Call.event?).Pairwise fun a b => a.1 = b.1 → a.2 ≤ b.2

instance (calls : List Call) : Decidable (InOrder calls) :=
  inferInstanceAs (Decidable (List.Pairwise _ _))

theorem InOrder.of_append {calls later : List Call} (h : InOrder (calls ++ later)) :
    InOrder calls := by
  rw [InOrder, List.filterMap_append] at h
  exact (List.pairwise_append.1 h).1

/-- An event that was counted, and the answer to it. -/
structure Told where
  project : String
  now : Moment
  /-- Did tracking the project start with this event? -/
  starts : Bool
  spike? : Option (Spike ℚ)

/-! ## Windows by the record -/

/-- The events of a project. -/
def told (project : String) (record : List Told) : List Told :=
  record.filter fun e => e.project = project

/-- The events of a project since tracking it last started. -/
def sinceStart (project : String) (record : List Told) : List Told :=
  (told project record).foldl (fun events e => if e.starts then [e] else events ++ [e]) []

/-- The windows that events close without a spike, from a window on that opened at some moment and
has counted some events. An event at least a minute after the window opened closes it, is counted in
it, and opens the next one. -/
def quietFrom (opened : Moment) (count : Nat) : List Told → List ClosedWindow
  | [] => []
  | e :: later =>
    if elapsed opened e.now < windowLength then quietFrom opened (count + 1) later
    else (if e.spike?.isNone then [⟨opened, e.now, count + 1⟩] else []) ++ quietFrom e.now 0 later

/-- The windows that events close without a spike; the first event opens the first window. -/
def quietOf : List Told → List ClosedWindow
  | [] => []
  | first :: later => quietFrom first.now 0 (first :: later)

/-- The windows of a project that were closed without a spike since tracking it last started. -/
def quietWindows (project : String) (record : List Told) : List ClosedWindow :=
  quietOf (sinceStart project record)

section Told

variable {project : String} {record : List Told} {e : Told}

theorem told_append {later : List Told} :
    told project (record ++ later) = told project record ++ told project later :=
  List.filter_append ..

theorem told_concat :
    told project (record ++ [e]) =
      if e.project = project then told project record ++ [e] else told project record := by
  rw [told_append]
  by_cases h : e.project = project <;> simp [told, h]

theorem mem_told {f : Told} : f ∈ told project record ↔ f ∈ record ∧ f.project = project := by
  simp [told]

theorem sinceStart_concat :
    sinceStart project (record ++ [e]) =
      if e.project = project then
        if e.starts then [e] else sinceStart project record ++ [e]
      else sinceStart project record := by
  rw [sinceStart, told_concat]
  by_cases h : e.project = project
  · rw [if_pos h, if_pos h, List.foldl_concat]
    rfl
  · rw [if_neg h, if_neg h]
    rfl

/-- While tracking a project does not start anew, its events are added to those since it started. -/
theorem sinceStart_append {later : List Told}
    (h : ∀ e ∈ later, e.project = project → e.starts = false) :
    sinceStart project (record ++ later) = sinceStart project record ++ told project later := by
  induction later using List.reverseRecOn with
  | nil => simp [told]
  | append_singleton later e ih =>
    have hlater := ih fun f hf => h f (List.mem_append_left _ hf)
    rw [← List.append_assoc, sinceStart_concat, told_concat, hlater]
    by_cases hproject : e.project = project
    · simp [hproject, h e (by simp) hproject]
    · rw [if_neg hproject, if_neg hproject]

end Told

namespace Detector

/-! ## The run -/

/-- The event that a call counts, with the answer to it. -/
def answer (d : Detector ℚ) (p : String) (clock now : Moment) : Told :=
  ⟨p, now, (d.windows.live? p clock).isNone, (d.record p clock now).1⟩

/-- What a call adds to the record, and the detector after it. -/
def step (d : Detector ℚ) : Call → List Told × Detector ℚ
  | .record p clock now => ([d.answer p clock now], (d.record p clock now).2)
  | .baseline p clock => ([], (d.baseline p clock).2)

/-- The record of a run. -/
def trace (d : Detector ℚ) : List Call → List Told
  | [] => []
  | call :: later => (d.step call).1 ++ trace (d.step call).2 later

/-- The detector after a run. -/
def after (d : Detector ℚ) (calls : List Call) : Detector ℚ :=
  calls.foldl (fun d call => (d.step call).2) d

theorem after_append (d : Detector ℚ) (calls later : List Call) :
    d.after (calls ++ later) = (d.after calls).after later :=
  List.foldl_append ..

theorem trace_append (d : Detector ℚ) (calls later : List Call) :
    d.trace (calls ++ later) = d.trace calls ++ (d.after calls).trace later := by
  induction calls generalizing d with
  | nil => rfl
  | cons call calls ih =>
    rw [List.cons_append, trace, ih, trace, List.append_assoc]
    rfl

theorem trace_singleton (d : Detector ℚ) (call : Call) : d.trace [call] = (d.step call).1 :=
  List.append_nil _

/-- The record has the events of the calls. -/
theorem map_trace (d : Detector ℚ) (calls : List Call) :
    (d.trace calls).map (fun e => (e.project, e.now)) = calls.filterMap Call.event? := by
  induction calls generalizing d with
  | nil => rfl
  | cons call calls ih =>
    rw [trace, List.map_append, ih]
    cases call <;> rfl

/-- In a run in order, the record is. -/
theorem pairwise_trace (d : Detector ℚ) {calls : List Call} (h : InOrder calls) :
    (d.trace calls).Pairwise fun e f => e.project = f.project → e.now ≤ f.now := by
  rw [InOrder, ← d.map_trace] at h
  exact List.pairwise_map.1 h

/-! ## What a call does to the windows -/

section Step

variable {d : Detector ℚ} {p j : String} {clock now : Moment} {e : CacheEntry (Window ℚ)}

/-- The window in which a call counts its event: the live one of the project, or else a new one. -/
def windowAt (d : Detector ℚ) (p : String) (clock now : Moment) : Window ℚ :=
  match d.windows.live? p clock with
  | some e => e.value
  | none => .opening now

/-- What the event of a call shows, and the window that it leaves. -/
def observed (d : Detector ℚ) (p : String) (clock now : Moment) : Observation ℚ × Window ℚ :=
  (d.windowAt p clock now).observe now

theorem obtain_fst_eq_windowAt :
    (d.windows.obtain p (fun _ => .opening now) clock).1.1 = d.windowAt p clock now := by
  rw [Cache.obtain_eq, Cache.get_fst, windowAt]
  cases d.windows.live? p clock <;> rfl

theorem record_fst : (d.record p clock now).1 = (d.observed p clock now).1.spike? p := by
  rw [record_eq, observed, ← obtain_fst_eq_windowAt]

/-- **After a call**, its project has the window that its event left, and every other project has at
most the entry that it had before. -/
theorem find?_record (h : (d.record p clock now).2.windows.entries.find? j = some e) :
    j = p ∧ e.value = (d.observed p clock now).2 ∨
      j ≠ p ∧ d.windows.entries.find? j = some e := by
  rw [record_eq, Cache.find?_adjust, obtain_fst_eq_windowAt] at h
  by_cases hj : j = p
  · rw [if_pos hj] at h
    obtain ⟨e', -, rfl⟩ := Option.map_eq_some_iff.1 h
    exact Or.inl ⟨hj, rfl⟩
  · rw [if_neg hj, Cache.obtain_eq] at h
    refine Or.inr ⟨hj, ?_⟩
    cases hget : (d.windows.get p clock).1 with
    | none =>
      rw [hget] at h
      exact Cache.find?_of_find?_insert _ p j _ clock hj h
    | some w => rwa [hget, Cache.find?_get, if_neg hj] at h

/-- The entry of the project of a call is touched by it. -/
theorem find?_record_self (hexpiry : d.windows.expiry = .afterAccess idleExpiry) :
    (d.record p clock now).2.windows.entries.find? p =
      some ⟨(d.observed p clock now).2, clock⟩ := by
  rw [record_eq, Cache.find?_adjust, if_pos rfl, obtain_fst_eq_windowAt, Cache.obtain_eq,
    Cache.get_fst]
  cases hlive : d.windows.live? p clock with
  | none => simp [Cache.find?_insert, observed]
  | some e => simp [Cache.find?_get, hlive, Cache.read, hexpiry, Expiry.refreshes, observed]

/-- Reading a baseline leaves every project at most the window that it had before. -/
theorem find?_baseline (h : (d.baseline p clock).2.windows.entries.find? j = some e) :
    ∃ e', d.windows.entries.find? j = some e' ∧ e'.value = e.value := by
  rw [baseline, Cache.find?_get] at h
  split_ifs at h with hj
  · obtain ⟨e', he', rfl⟩ := Option.map_eq_some_iff.1 h
    refine ⟨e', hj ▸ ((Cache.live?_eq_some_iff ..).1 he').1, ?_⟩
    rw [Cache.read]
    split_ifs <;> rfl
  · exact ⟨e, h, rfl⟩

theorem baseline_fst :
    (d.baseline p clock).1 = (d.windows.live? p clock).bind fun e => e.value.baseline := by
  change (d.windows.get p clock).1.bind Window.baseline = _
  rw [Cache.get_fst, Option.bind_map]
  rfl

theorem expiry_step (call : Call) : (d.step call).2.windows.expiry = d.windows.expiry := by
  cases call with
  | record p clock now =>
    rw [step, record_eq, Cache.obtain_eq]
    cases (d.windows.get p clock).1 <;> simp
  | baseline p clock => exact Cache.expiry_get ..

end Step

theorem expiry_after (d : Detector ℚ) (calls : List Call) :
    (d.after calls).windows.expiry = d.windows.expiry := by
  induction calls using List.reverseRecOn with
  | nil => rfl
  | append_singleton calls call ih => rw [after_append, ← ih]; exact expiry_step call

end Detector

end Footfall.Traffic
