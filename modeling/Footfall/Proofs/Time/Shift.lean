import Mathlib.Algebra.Order.Ring.Int
import Mathlib.Tactic.SplitIfs
import Footfall.Proofs.Time

/-!
# Moving instants

Instants and dates can be handled within a range of years, and arithmetic that leaves the range has
no result. In nanoseconds since 1970 a move towards the past is a subtraction
(`Timestamp.nanos_shift`), also from within a leap second, and it has a result exactly if it does
not pass the first instant (`Timestamp.isSome_shift?_iff`). A move of less than a second towards the
future stays within two neighbouring seconds (`Timestamp.seconds_shift`).

The nanoseconds between two instants are negative only from a leap second at the end of a day to the
second after it (`Timestamp.of_since_neg`), because a leap second at the later time of day is not
counted. Instants that are whole microseconds lie in no leap second, and for them all this is the
arithmetic of integers.
-/

namespace Footfall

/-! ## Dates -/

namespace Date

theorem first_day : first.day = -96465292 := by decide +kernel

theorem last_day : last.day = 95026236 := by decide +kernel

theorem representable_iff {d : Date} :
    d.representable = true ↔ first.day ≤ d.day ∧ d.day ≤ last.day := by
  simp [representable]

theorem representable_of_between {a b d : Date} (ha : a.representable = true)
    (hb : b.representable = true) (had : a.day ≤ d.day) (hdb : d.day ≤ b.day) :
    d.representable = true := by
  rw [representable_iff] at *
  exact ⟨ha.1.trans had, hdb.trans hb.2⟩

theorem isSome_shift? {d : Date} {n : ℤ} :
    (d.shift? n).isSome = true ↔ (⟨d.day + n⟩ : Date).representable = true := by
  rw [shift?]
  by_cases h : (⟨d.day + n⟩ : Date).representable = true <;> simp [h]

theorem shift?_of_representable {d : Date} {n : ℤ}
    (h : (⟨d.day + n⟩ : Date).representable = true) : d.shift? n = some ⟨d.day + n⟩ := if_pos h

end Date

namespace Timestamp

variable {t start stop : Timestamp} {d : ℤ}

theorem isLeap_iff : t.isLeap = true ↔ 1000000000 ≤ t.fraction := by
  rw [isLeap, decide_eq_true_eq, second]
  omega

/-! ## Instants that can be handled -/

/-- The first instant that can be handled. -/
def earliest : Timestamp := ofDate Date.first

/-- An instant that can be handled: its date is representable, and its fraction does not go beyond
the leap second after its second. -/
structure IsInstant (t : Timestamp) : Prop where
  representable : t.representable = true
  fraction_lt : t.fraction < 2000000000

theorem representable_iff {t : Timestamp} : t.representable = true ↔
    Date.first.day * 86400 ≤ t.seconds ∧ t.seconds < (Date.last.day + 1) * 86400 := by
  rw [representable, Date.representable_iff, date]
  dsimp only
  omega

theorem representable_of_seconds (hstart : start.representable = true)
    (hstop : stop.representable = true) (hle : start.seconds ≤ t.seconds)
    (hge : t.seconds ≤ stop.seconds) : t.representable = true := by
  rw [representable_iff] at *
  omega

/-- The times that a clock may show: from 1970 to 9999, but not within a leap second. -/
structure IsCurrent (t : Timestamp) : Prop where
  not_leap : t.isLeap = false
  since_1970 : (Date.ofCivil 1970 1 1).day ≤ t.date.day
  until_9999 : t.date.day ≤ (Date.ofCivil 9999 12 31).day

/-- The first of these times is the beginning of 1970. -/
theorem isCurrent_epoch : IsCurrent ⟨0, 0⟩ := by
  constructor <;> decide +kernel

theorem IsCurrent.isInstant (h : t.IsCurrent) : t.IsInstant where
  representable := by
    have hstart : 0 ≤ t.date.day := h.since_1970
    have hstop : t.date.day ≤ 2932896 := h.until_9999
    rw [representable, Date.representable_iff, Date.first_day, Date.last_day]
    omega
  fraction_lt := by
    have hleap := mt isLeap_iff.2 (Bool.eq_false_iff.1 h.not_leap)
    omega

theorem nanos_earliest : earliest.nanos = Date.first.day * oneDay := by
  simp only [earliest, ofDate, nanos, oneDay, second]
  omega

theorem mul_oneDay_le_nanos {day : ℤ} (h : day ≤ t.date.day) : day * oneDay ≤ t.nanos := by
  simp only [date, nanos, oneDay, second] at *
  omega

theorem IsInstant.nanos_lt (h : t.IsInstant) : t.nanos < (Date.last.day + 1) * oneDay + second := by
  have hlast := (representable_iff.1 h.representable).2
  have hfraction := h.fraction_lt
  simp only [nanos, oneDay, second]
  omega

/-- A leap second has a second before it. -/
theorem earliest_le_of_isLeap (h : t.representable = true) (hleap : t.isLeap = true) :
    earliest.nanos ≤ t.nanos + -microsecond := by
  rw [representable_iff] at h
  rw [isLeap_iff] at hleap
  simp only [earliest, ofDate, nanos, second, microsecond]
  omega

/-! ## Moves -/

@[simp] theorem nanos_ofNanos (n : ℤ) : (ofNanos n).nanos = n := by
  simp only [ofNanos, nanos, second]
  omega

/-- Moving an instant by whole days keeps the time of day. -/
theorem shift_days (h : t.isLeap = false) (n : ℤ) :
    t.shift (n * oneDay) = ⟨t.seconds + n * 86400, t.fraction⟩ := by
  have hfraction : (t.fraction : ℤ) < 1000000000 := by simpa [isLeap, second] using h
  rw [shift, if_neg (by simp [h])]
  simp only [ofNanos, nanos, oneDay, second, Timestamp.mk.injEq]
  omega

theorem date_add_days (seconds : ℤ) (fraction : ℕ) (n : ℤ) :
    (⟨seconds + n * 86400, fraction⟩ : Timestamp).date.day = seconds / 86400 + n := by
  simp only [date]
  omega

/-- A move towards the past subtracts. -/
theorem nanos_shift (hd : d ≤ 0) : (t.shift d).nanos = t.nanos + d := by
  rw [shift]
  split_ifs with hleap hnear hpos
  · rw [isLeap_iff] at hleap
    simp only [nanos, second] at *
    omega
  · omega
  · exact nanos_ofNanos _
  · exact nanos_ofNanos _

theorem fraction_shift_lt (t : Timestamp) (d : ℤ) : (t.shift d).fraction < 2000000000 := by
  rw [shift]
  split_ifs <;> simp only [ofNanos, second] at * <;> omega

theorem representable_shift_iff (ht : t.IsInstant) (hd : d ≤ 0) :
    (t.shift d).representable = true ↔ earliest.nanos ≤ t.nanos + d := by
  have hfraction := ht.fraction_lt
  have hrep := representable_iff.1 ht.representable
  rw [representable_iff, shift]
  split_ifs with hleap hnear hpos <;> rw [isLeap_iff] at hleap <;>
    simp only [ofNanos, earliest, ofDate, nanos, second] at * <;> omega

/-- **A move towards the past has a result exactly if it does not pass the first instant.** -/
theorem isSome_shift?_iff (ht : t.IsInstant) (hd : d ≤ 0) :
    (t.shift? d).isSome = true ↔ earliest.nanos ≤ t.nanos + d := by
  rw [← representable_shift_iff ht hd, shift?]
  split_ifs with h <;> simp [h]

theorem isInstant_of_shift? {u : Timestamp} (h : t.shift? d = some u) :
    u.IsInstant ∧ u = t.shift d := by
  rw [shift?] at h
  split_ifs at h with hrep
  cases h
  exact ⟨⟨hrep, fraction_shift_lt t d⟩, rfl⟩

theorem shift_le (ht : t.IsInstant) (hd : d ≤ 0) : t.shift d ≤ t := by
  have hfraction := ht.fraction_lt
  rw [le_iff, shift]
  split_ifs with hleap hnear hpos <;> rw [isLeap_iff] at hleap
  · exact Or.inr ⟨rfl, by dsimp only; omega⟩
  all_goals
    simp only [ofNanos, nanos, second] at *
    omega

/-- A move of less than a second towards the future. -/
theorem seconds_shift (ht : t.IsInstant) (hpos : 0 < d) (hd : d < second) :
    t.seconds ≤ (t.shift d).seconds ∧ (t.shift d).seconds ≤ t.seconds + 1 := by
  have hfraction := ht.fraction_lt
  rw [shift]
  split_ifs with hleap hnear <;> rw [isLeap_iff] at hleap <;>
    simp only [ofNanos, nanos, second] at * <;> omega

/-! ## Durations -/

theorem since_le (start stop : Timestamp) :
    start.since stop ≤ stop.nanos - start.nanos + second := by
  have hsecond : 0 ≤ second := by decide
  rw [since]
  split_ifs <;> omega

/-- Where time seems to go backwards: from a leap second that ends a day to the second after it. -/
theorem of_since_neg (hstart : start.fraction < 2000000000) (hstop : stop.fraction < 2000000000)
    (hle : start ≤ stop) (hneg : start.since stop < 0) :
    start.isLeap = true ∧ stop.seconds = start.seconds + 1 ∧ -second < start.since stop := by
  rw [le_iff] at hle
  rw [isLeap_iff]
  simp only [since, isLeap_iff, secondOfDay, nanos, second] at *
  split_ifs at hneg ⊢ <;> omega

section Micros

variable {a b : ℤ}

@[simp] theorem isLeap_ofMicros (a : ℤ) : (ofMicros a).isLeap = false := by
  rw [Bool.eq_false_iff, ne_eq, isLeap_iff]
  simp only [ofMicros, ofNanos, second]
  omega

@[simp] theorem nanos_ofMicros (a : ℤ) : (ofMicros a).nanos = a * microsecond := nanos_ofNanos _

@[simp] theorem ofMicros_le_ofMicros : ofMicros a ≤ ofMicros b ↔ a ≤ b := by
  simp only [le_iff, ofMicros, ofNanos, microsecond, second]
  omega

@[simp] theorem ofMicros_lt_ofMicros : ofMicros a < ofMicros b ↔ a < b := by
  rw [← not_le, ← not_le, ofMicros_le_ofMicros]

theorem shift_ofMicros (a d : ℤ) : (ofMicros a).shift (d * microsecond) = ofMicros (a + d) := by
  rw [shift, if_neg (by simp), nanos_ofMicros, ofMicros, add_mul]

theorem since_ofMicros (a b : ℤ) : (ofMicros a).since (ofMicros b) = (b - a) * microsecond := by
  simp [since, sub_mul]

/-- Between two instants that can be handled every instant can be. -/
theorem representable_ofMicros_of_between {c : ℤ} (ha : (ofMicros a).representable = true)
    (hc : (ofMicros c).representable = true) (hab : a ≤ b) (hbc : b ≤ c) :
    (ofMicros b).representable = true := by
  refine representable_of_seconds ha hc ?_ ?_ <;>
    simp only [seconds_ofMicros] <;> omega

end Micros

end Timestamp

end Footfall
