import Mathlib.Tactic.Ring
import Footfall.Proofs.Settings
import Footfall.Proofs.Time.Shift
import Footfall.Service.Maintenance

/-!
# How far back the retention reaches

The sweep of expired events begins by reckoning where the retention window begins. The number of
days of the retention is not checked with the other settings, and an instant that many days ago may
lie before the first representable day; then the sweep is given up before the store is asked to
delete anything.

At the times from 1970 to 9999 the beginning of the window can only be too early, never too late, so
the sweep goes through exactly if the retention is no longer than the days since the first
representable one (`Service.isSome_cutoff_iff`). `Service.purge_sweeps_iff` puts together what it
does in either case, and which retentions always work.
-/

namespace Footfall

/-- The number of days of the retention is not checked. -/
theorem Settings.validate_retentionDays (s : Settings) (n : ℕ) :
    { s with retentionDays := n }.validate = s.validate := rfl

namespace Service

variable {s : Service} {now cutoff : Timestamp}

/-- Where the retention window begins, representable or not. -/
def windowStart (s : Service) (now : Timestamp) : Timestamp :=
  ⟨now.seconds + -(s.settings.retentionDays : ℤ) * 86400, now.fraction⟩

theorem cutoff_eq (h : now.isLeap = false) :
    s.cutoff now =
      if (s.windowStart now).representable then some (s.windowStart now) else none := by
  have hwindow : -((s.settings.retention : ℤ) * Timestamp.second) =
      -(s.settings.retentionDays : ℤ) * Timestamp.oneDay := by
    simp only [Settings.retention, Timestamp.oneDay]
    push_cast
    ring
  rw [cutoff, hwindow, Timestamp.shift?, Timestamp.shift_days h]
  rfl

/-- The window begins at a representable instant exactly if the retention is no longer than the days
since the first one. -/
theorem isSome_cutoff_iff (h : now.IsCurrent) :
    (s.cutoff now).isSome = true ↔
      (s.settings.retentionDays : ℤ) ≤ now.date.day - Date.first.day := by
  have hlast : now.date.day ≤ 2932896 := h.until_9999
  have hday : (s.windowStart now).date.day = now.date.day + -(s.settings.retentionDays : ℤ) :=
    Timestamp.date_add_days _ _ _
  have hiff : (s.windowStart now).representable = true ↔
      (s.settings.retentionDays : ℤ) ≤ now.date.day - Date.first.day := by
    rw [Timestamp.representable, Date.representable_iff, hday, Date.first_day, Date.last_day]
    omega
  rw [cutoff_eq h.not_leap, ← hiff]
  split_ifs with hrep <;> simp [hrep]

/-- The sweep has the store delete the events before an instant, and does nothing else. -/
structure Sweeps (s : Service) (now cutoff : Timestamp) : Prop where
  answer : (s.purge now).1 = (s.store.deleteBefore cutoff).1.mapError UpkeepError.store
  state : (s.purge now).2 = { s with store := (s.store.deleteBefore cutoff).2 }

theorem sweeps_of_cutoff (h : s.cutoff now = some cutoff) : s.Sweeps now cutoff := by
  rcases hdelete : s.store.deleteBefore cutoff with ⟨_ | _, _⟩
  · exact ⟨by simp only [purge, h, hdelete]; rfl, by simp only [purge, h, hdelete]⟩
  · exact ⟨by simp only [purge, h, hdelete]; rfl, by simp only [purge, h, hdelete]⟩

theorem purge_of_cutoff_none (h : s.cutoff now = none) : s.purge now = (.error .outOfRange, s) := by
  rw [purge, h]

/-- **When expired events are deleted.** Take any service, at the times from 1970 to 9999.

* If the retention is no longer than the days since the first representable one, the sweep has the
  store delete what is older than the retention.
* Otherwise it is given up and nothing is deleted.
* The first is so at all those times exactly for retentions of up to 96465292 days. -/
theorem purge_sweeps_iff (s : Service) :
    (∀ now : Timestamp, now.IsCurrent →
      ((s.settings.retentionDays : ℤ) ≤ now.date.day - Date.first.day →
        s.Sweeps now (s.windowStart now)) ∧
      (now.date.day - Date.first.day < s.settings.retentionDays →
        s.purge now = (.error .outOfRange, s))) ∧
    ((∀ now : Timestamp, now.IsCurrent → (s.cutoff now).isSome = true) ↔
      s.settings.retentionDays ≤ 96465292) := by
  refine ⟨fun now hnow => ⟨fun hfits => ?_, fun hlong => ?_⟩, fun halways => ?_,
    fun hshort now hnow => ?_⟩
  · have hsome := (isSome_cutoff_iff hnow).2 hfits
    rw [cutoff_eq hnow.not_leap] at hsome
    exact sweeps_of_cutoff (by rw [cutoff_eq hnow.not_leap, if_pos (by simpa using hsome)])
  · have hnone := mt (isSome_cutoff_iff hnow).1 (not_le.2 hlong)
    exact purge_of_cutoff_none (by simpa using hnone)
  · have hepoch := Timestamp.isCurrent_epoch
    have hbound : (s.settings.retentionDays : ℤ) ≤ 0 - Date.first.day :=
      (isSome_cutoff_iff hepoch).1 (halways _ hepoch)
    rw [Date.first_day] at hbound
    omega
  · have hsince : 0 ≤ now.date.day := hnow.since_1970
    rw [isSome_cutoff_iff hnow, Date.first_day]
    omega

/-- By the defaults, the sweep of the first of March 2026 has the events of more than a year ago
deleted; and it is never given up. -/
theorem purge_sweeps_one_year :
    ∃ s, withQueue (Settings.ofSalt "0123456789abcdef0123456789abcdef") Locator.blind
        (fun _ => none) {} 8 = .ok s ∧
      s.Sweeps ⟨1772366400, 0⟩ ⟨1740830400, 0⟩ ∧
      ∀ now : Timestamp, now.IsCurrent → (s.cutoff now).isSome = true := by
  refine ⟨_, rfl, ?_⟩
  have hnow : Timestamp.IsCurrent ⟨1772366400, 0⟩ := by constructor <;> decide +kernel
  exact ⟨((purge_sweeps_iff _).1 _ hnow).1 (by decide +kernel),
    (purge_sweeps_iff _).2.2 (by decide +kernel)⟩

/-- The longest retention that fits 32 bits is accepted with the other settings, and no sweep of the
first of March 2026 goes through. -/
theorem purge_gives_up_longest_retention :
    let settings := { Settings.ofSalt "0123456789abcdef0123456789abcdef" with
      retentionDays := 4294967295 }
    settings.validate = .ok () ∧
      ∃ s, withQueue settings Locator.blind (fun _ => none) {} 8 = .ok s ∧
        s.cutoff ⟨1772366400, 0⟩ = none ∧ s.purge ⟨1772366400, 0⟩ = (.error .outOfRange, s) := by
  intro settings
  have hvalid : settings.validate = .ok () :=
    (Settings.validate_retentionDays _ _).trans (Settings.validate_ofSalt (by decide +kernel))
  obtain ⟨s, hs, hretention⟩ : ∃ s,
      withQueue { Settings.ofSalt "0123456789abcdef0123456789abcdef" with
        retentionDays := 4294967295 } Locator.blind (fun _ => none) {} 8 = .ok s ∧
      s.settings.retentionDays = 4294967295 := ⟨_, rfl, rfl⟩
  have hnone : s.cutoff ⟨1772366400, 0⟩ = none := by
    rw [cutoff, Settings.retention, hretention]
    decide +kernel
  exact ⟨hvalid, s, hs, hnone, purge_of_cutoff_none hnone⟩

end Service

end Footfall
