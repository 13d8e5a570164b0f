import Footfall.Proofs.Cache.Operations
import Footfall.Proofs.Traffic.Project

/-!
# The detector answers as the batch definition does

As long as no more projects have events than the detector can track, its cache drives nothing out,
so a call changes the entry of its own project only (`Detector.Tracks.find?_record`). The calls of a
project are therefore answered as if it were watched alone (`Detector.answersOf_eq_watch`), and so
as the batch definition says: this is `Detector.answersOf_eq_batch`.
-/

namespace Footfall.Traffic.Detector

/-- The answers to the calls of one project in a run of calls, each at the reading of the one clock
at which it is made. -/
def answersOf (project : String) (d : Detector ℚ) :
    List (Moment × String) → List (Option (Spike ℚ))
  | [] => []
  | (t, p) :: later =>
    if p = project then (d.record p t t).1 :: answersOf project (d.record p t t).2 later
    else answersOf project (d.record p t t).2 later

/-- The moments of the calls of one project. -/
def eventsOf (project : String) (calls : List (Moment × String)) : List Moment :=
  (calls.filter fun call => call.2 = project).map (·.1)

/-- The detector tracks some projects, and has room for all of them. -/
structure Tracks (projects : Finset String) (d : Detector ℚ) : Prop where
  expiry : d.windows.expiry = .afterAccess idleExpiry
  room : projects.card ≤ d.windows.capacity
  keys : ∀ p ∈ d.windows.entries.keys, p ∈ projects

theorem tracks_new {projects : Finset String} (hcard : projects.card ≤ maxProjects) :
    Tracks projects new where
  expiry := rfl
  room := hcard
  keys p hp := by cases hp

section Record

variable {projects : Finset String} {d : Detector ℚ} {p project : String} {t : Moment}

/-- The window in which a call counts its event. -/
theorem Tracks.obtain_fst (h : Tracks projects d) :
    (d.windows.obtain p (fun _ => .opening t) t).1.1 = current (d.windows.entries.find? p) t := by
  rw [Cache.obtain]
  cases d.windows.entries.find? p with
  | none => rfl
  | some e =>
    by_cases hl : elapsed e.touchedAt t < idleExpiry <;>
      simp [Cache.isLive, h.expiry, Expiry.ttl, hl, current]

theorem Tracks.find?_obtain (h : Tracks projects d) (hp : p ∈ projects) :
    (d.windows.obtain p (fun _ => .opening t) t).2.entries.find? project =
      if project = p then some ⟨current (d.windows.entries.find? p) t, t⟩
      else d.windows.entries.find? project := by
  have hroom : d.windows.HasRoom p := d.windows.hasRoom_of_card p h.keys hp h.room
  rw [Cache.obtain]
  cases hfind : d.windows.entries.find? p with
  | none => exact Cache.find?_insert_of_room _ _ _ _ _ hroom
  | some e =>
    by_cases hl : elapsed e.touchedAt t < idleExpiry
    · have hlive : d.windows.isLive t e = true := by simp [Cache.isLive, h.expiry, Expiry.ttl, hl]
      dsimp only
      rw [if_pos hlive, Cache.find?_touch _ _ _ _ hfind, Cache.read, h.expiry]
      simp [Expiry.refreshes, current, hl]
    · have hlive : ¬ d.windows.isLive t e = true := by
        simp [Cache.isLive, h.expiry, Expiry.ttl, hl]
      dsimp only
      rw [if_neg hlive, Cache.find?_insert_of_room _ _ _ _ _ hroom]
      simp [current, hl]

/-- A call counts its event in the window that it obtains, and keeps that window. -/
theorem record_eq (clock now : Moment) :
    d.record p clock now =
      let obtained := d.windows.obtain p (fun _ => .opening now) clock
      ((obtained.1.1.observe now).1.spike? p,
        ⟨obtained.2.adjust p fun _ => (obtained.1.1.observe now).2⟩) := by
  simp only [record, Cache.getOrInsertWith]
  cases (d.windows.obtain p (fun _ => .opening now) clock).1.1.observe now with
  | mk seen w => cases seen <;> rfl

theorem Tracks.record_fst (h : Tracks projects d) :
    (d.record p t t).1 =
      ((current (d.windows.entries.find? p) t).observe t).1.spike? p := by
  rw [record_eq, ← h.obtain_fst]

/-- **A call changes the entry of its own project only.** -/
theorem Tracks.find?_record (h : Tracks projects d) (hp : p ∈ projects) :
    (d.record p t t).2.windows.entries.find? project =
      if project = p then some ⟨((current (d.windows.entries.find? p) t).observe t).2, t⟩
      else d.windows.entries.find? project := by
  rw [record_eq, Cache.find?_adjust, h.find?_obtain hp, h.find?_obtain hp, h.obtain_fst]
  by_cases hproject : project = p <;> simp [hproject]

theorem Tracks.record (h : Tracks projects d) (hp : p ∈ projects) :
    Tracks projects (d.record p t t).2 where
  expiry := by
    rw [record_eq, Cache.obtain_eq]
    cases (d.windows.get p t).1 <;> simp [h.expiry]
  room := by
    rw [record_eq, Cache.obtain_eq]
    cases (d.windows.get p t).1 <;> simp [h.room]
  keys j hj := by
    obtain ⟨e, he⟩ := Table.mem_keys.1 hj
    rw [h.find?_record hp] at he
    split_ifs at he with hjp
    · exact hjp ▸ hp
    · exact h.keys j (Table.mem_keys.2 ⟨e, he⟩)

end Record

/-- The calls of a project are answered as if it were watched alone. -/
theorem answersOf_eq_watch {projects : Finset String} {d : Detector ℚ} (h : Tracks projects d)
    (project : String) (calls : List (Moment × String))
    (hcalls : ∀ call ∈ calls, call.2 ∈ projects) :
    d.answersOf project calls =
      watch project (d.windows.entries.find? project) (eventsOf project calls) := by
  induction calls generalizing d with
  | nil => rfl
  | cons call later ih =>
    obtain ⟨t, p⟩ := call
    have hp : p ∈ projects := hcalls (t, p) (by simp)
    have hlater := ih (h.record hp (t := t)) fun call hcall => hcalls call (by simp [hcall])
    rw [answersOf, hlater, h.find?_record hp]
    by_cases hproject : p = project
    · subst hproject
      have hevents : eventsOf p ((t, p) :: later) = t :: eventsOf p later := by simp [eventsOf]
      rw [if_pos rfl, if_pos rfl, hevents, watch, h.record_fst]
    · have hevents : eventsOf project ((t, p) :: later) = eventsOf project later := by
        simp [eventsOf, hproject]
      rw [if_neg hproject, if_neg (Ne.symm hproject), hevents]

/-- **The detector equals its batch definition.** In every run of calls for at most as many projects
as the detector can track, the calls of a project are answered as the batch definition says from the
events of this project alone. -/
theorem answersOf_eq_batch (calls : List (Moment × String))
    (hcard : (calls.map (·.2)).toFinset.card ≤ maxProjects) (project : String) :
    new.answersOf project calls = answersOfEvents project (eventsOf project calls) := by
  rw [answersOf_eq_watch (tracks_new hcard) project calls, ← watch_eq]
  · rfl
  · intro call hcall
    exact List.mem_toFinset.2 (List.mem_map_of_mem hcall)

/-- Two projects with calls at the same time, one of which is idle for more than ten minutes. -/
theorem answersOf_eq_batch_two_projects :
    ([((0 : Moment), "a"), (5, "b"), (60000000000, "a"), (700000000000, "a")].map
        (·.2)).toFinset.card ≤ maxProjects ∧
      new.answersOf "a" [(0, "a"), (5, "b"), (60000000000, "a"), (700000000000, "a")] =
        answersOfEvents "a"
          (eventsOf "a" [(0, "a"), (5, "b"), (60000000000, "a"), (700000000000, "a")]) := by
  have hcard : ([((0 : Moment), "a"), (5, "b"), (60000000000, "a"), (700000000000, "a")].map
      (·.2)).toFinset.card ≤ maxProjects := by decide
  exact ⟨hcard, answersOf_eq_batch _ hcard "a"⟩

end Footfall.Traffic.Detector
