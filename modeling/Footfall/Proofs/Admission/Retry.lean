import Footfall.Proofs.Admission.Isolation
import Footfall.Proofs.Admission.Refill

/-!
# When to come back

A client that is refused is told after how many seconds to come back: sixty, divided by the limit
and rounded up (`retryAfter_le_iff`). A bucket refills by its limit in a minute, so after that time
it holds a whole token, whatever part of one it held before; and an empty bucket does not after any
smaller number of seconds.

The bucket has to be left alone meanwhile. Uses of a family that spare it (`Use.Spares`) leave what
the family holds for the identifier as it is (`Scope.slot_run_of_spares`), so the bucket is asked as
if nothing had happened since the refusal (`Scope.Settled.take_fst_of_refused`).
-/

namespace Footfall.Admission

/-- The seconds of a refusal are the fewest in which sixty times the limit's rate gives a token. -/
theorem retryAfter_le_iff {limit n : ℕ} : retryAfter limit ≤ n ↔ 60 ≤ max limit 1 * n := by
  have hpos : 0 < max limit 1 := by omega
  rw [retryAfter, Nat.div_le_iff_le_mul_add_pred hpos]
  omega

/-- The moment a number of seconds later. -/
def secondsLater (t : Moment) (n : ℕ) : Moment := t + n * 1000000000

theorem le_secondsLater (t : Moment) (n : ℕ) : t ≤ secondsLater t n := by
  unfold secondsLater Moment at *
  omega

@[simp] theorem minutes_secondsLater (t : Moment) (n : ℕ) :
    minutes t (secondsLater t n) = n / 60 := by
  rw [minutes_of_le (le_secondsLater t n), secondsLater, add_sub_cancel_left]
  push_cast
  ring

/-- Does a use leave a bucket alone that was last refilled at a moment? It does unless it asks for a
token of the bucket, changes the limit or drops the bucket. -/
def Use.Spares (window : ℕ) (identifier : String) (refilled now : Moment) : Use → Prop
  | .take other => other ≠ identifier
  | .reconfigure _ => False
  | .evictIdle => elapsed refilled now < window

namespace Scope

variable {s : Scope ℚ} {window : ℕ} {identifier : String} {uses : List (Moment × Use)}
  {now t : Moment}

theorem one_le_capacity_run (h : 1 ≤ s.capacity) (uses : List (Moment × Use)) :
    1 ≤ (s.run window uses).capacity := by
  induction uses generalizing s with
  | nil => exact h
  | cons u r ih =>
    obtain ⟨m, u⟩ := u
    cases u with
    | take j => exact ih h
    | reconfigure limit => exact ih (le_max_right limit 1)
    | evictIdle => exact ih h

theorem slot_run_of_spares {b : Bucket ℚ} (hb : s.buckets.find? identifier = some b)
    (h : ∀ u ∈ uses, u.2.Spares window identifier b.lastRefill u.1) :
    (s.run window uses).slot identifier = s.slot identifier := by
  induction uses generalizing s with
  | nil => rfl
  | cons u r ih =>
    obtain ⟨hu, hr⟩ := List.forall_mem_cons.1 h
    have hslot : (s.apply window u.1 u.2).slot identifier = s.slot identifier := by
      rw [slot_apply]
      obtain ⟨m, u⟩ := u
      cases u with
      | take j => exact if_neg (by simpa [Use.concerns, Use.Spares] using hu)
      | reconfigure limit => exact hu.elim
      | evictIdle =>
        have hkeep : (some b).filter (fun b => decide (elapsed b.lastRefill m < window)) = some b :=
          Option.filter_some_pos (by simpa [Use.Spares] using hu)
        simp only [Use.concerns, if_true, Slot.apply, slot, hb, hkeep]
    have hfind : (s.apply window u.1 u.2).buckets.find? identifier = some b := by
      rw [← hb]
      exact congrArg Slot.bucket hslot
    exact (ih hfind hr).trans hslot

/-- A refused client that comes back is given a token if it would read one then, had it not asked
before. -/
theorem Settled.take_fst_of_refused (h : s.Settled now)
    (hrefused : (s.take identifier now).1 = false) (ht : now ≤ t)
    (hspares : ∀ u ∈ uses, u.2.Spares window identifier now u.1) :
    (((s.take identifier now).2.run window uses).take identifier t).1 =
      decide (1 ≤ min (s.remaining identifier now + s.capacity * minutes now t) s.capacity) := by
  have hfind : (s.take identifier now).2.buckets.find? identifier =
      some ((s.bucketOf identifier now).take s.capacity now).2 := by
    rw [find?_take, if_pos rfl]
  have hlast : ((s.bucketOf identifier now).take s.capacity now).2.lastRefill = now := by
    rw [Bucket.take_eq]
    exact max_eq_right (h.bucketOf_le identifier)
  rw [take_fst_slot, slot_run_of_spares hfind (by rwa [hlast]), ← take_fst_slot, take_fst_eq,
    h.remaining_take_of_refused ht hrefused, h.remaining_eq ht]

/-- **Coming back when told to.** A family is used at moments that do not go back, and then a token
of an identifier is refused. If its bucket is left alone,

* it gives a token at any moment that is as many seconds later as the refusal says, or more;
* and if it was empty, it refuses one after any smaller number of whole seconds. -/
theorem take_after_retryAfter (limit window : ℕ) {uses : List (Moment × Use)}
    (hsorted : uses.Pairwise fun u v => u.1 ≤ v.1) (hpast : ∀ u ∈ uses, u.1 ≤ now) :
    let s := (Scope.new limit : Scope ℚ).run window uses
    (s.take identifier now).1 = false →
    ∀ between, (∀ u ∈ between, u.2.Spares window identifier now u.1) →
      (∀ t, secondsLater now (retryAfter s.capacity) ≤ t →
        (((s.take identifier now).2.run window between).take identifier t).1 = true) ∧
      (s.remaining identifier now = 0 → ∀ n < retryAfter s.capacity,
        (((s.take identifier now).2.run window between).take identifier
          (secondsLater now n)).1 = false) := by
  intro s hrefused between hspares
  obtain ⟨start, hstart, hfirst⟩ := exists_start uses now
  have hsettled : s.Settled now := (settled_new start limit).run hfirst hsorted hpast hstart
  have hcapacity : 1 ≤ s.capacity := one_le_capacity_run (le_max_right _ _) uses
  have hone : (1 : ℚ) ≤ s.capacity := by exact_mod_cast hcapacity
  have hmax : max s.capacity 1 = s.capacity := max_eq_left hcapacity
  constructor
  · intro t ht
    have hnow : now ≤ t := (le_secondsLater now _).trans ht
    have hseconds : (60 : ℚ) ≤ s.capacity * retryAfter s.capacity := by
      exact_mod_cast hmax ▸ retryAfter_le_iff.1 (le_refl (retryAfter s.capacity))
    have hminutes : (retryAfter s.capacity : ℚ) / 60 ≤ minutes now t := by
      rw [← minutes_secondsLater now]
      exact minutes_le_right ht
    have hrefill : 1 ≤ s.capacity * minutes now t :=
      calc (1 : ℚ) ≤ s.capacity * retryAfter s.capacity / 60 := by linarith
        _ = s.capacity * (retryAfter s.capacity / 60) := mul_div_assoc _ _ _
        _ ≤ s.capacity * minutes now t := by gcongr
    have hheld := hsettled.solvent.remaining_nonneg identifier now
    rw [hsettled.take_fst_of_refused hrefused hnow hspares, decide_eq_true_eq]
    exact le_min (by linarith) hone
  · intro hempty n hn
    have hseconds : (s.capacity * n : ℚ) < 60 := by
      have hlt : ¬ 60 ≤ max s.capacity 1 * n := mt retryAfter_le_iff.2 (not_le.2 hn)
      rw [hmax] at hlt
      exact_mod_cast not_le.1 hlt
    rw [hsettled.take_fst_of_refused hrefused (le_secondsLater now n) hspares, hempty, zero_add,
      minutes_secondsLater, decide_eq_false_iff_not, not_le]
    refine (min_le_left _ _).trans_lt ?_
    rw [← mul_div_assoc]
    linarith

/-- With a limit of two, an empty bucket gives a token after 30 seconds and not after 29, whatever
else the family is asked for. -/
theorem take_after_half_minute :
    let s := (Scope.new 2 : Scope ℚ).run 600000000000 [(0, .take "x"), (0, .take "x")]
    let later := (s.take "x" 0).2.run 600000000000
      [(5000000000, .take "y"), (10000000000, .evictIdle)]
    (s.take "x" 0).1 = false ∧ (later.take "x" 30000000000).1 = true ∧
      (later.take "x" 29000000000).1 = false := by
  intro s later
  have hrefused : (s.take "x" 0).1 = false := by decide +kernel
  have hempty : s.remaining "x" 0 = 0 := by decide +kernel
  have hspares : ∀ u ∈ [((5000000000 : Moment), Use.take "y"), (10000000000, .evictIdle)],
      u.2.Spares 600000000000 "x" 0 u.1 := by
    simp [Use.Spares, elapsed]
  have hback := take_after_retryAfter 2 600000000000 (by decide) (by decide) hrefused _ hspares
  exact ⟨hrefused, hback.1 _ (by decide +kernel), hback.2 hempty 29 (by decide +kernel)⟩

end Scope

end Footfall.Admission
