import Footfall.Proofs.Admission.Idle
import Footfall.Proofs.Admission.Reading

/-!
# What a family shows from now on

A bucket may be refilled at any moment on the way to another without being seen to: the rate is the
same before and after, and what the capacity cuts off on the way it would cut off at the end
(`Bucket.min_available_add`). So all later readings of an identifier follow from the reading now
(`Scope.Settled.remaining_eq`), as long as the limit stays.

* Asking for a token in vain changes no later reading (`Scope.Settled.remaining_take_of_refused`),
  although it moves the time of the refill.
* Neither does dropping idle buckets (`Scope.Settled.remaining_evictIdle`).

This needs that no bucket was refilled later than now, which every run at moments that do not go
back keeps (`Scope.Settled.run`, `Controller.settled_after`).
-/

namespace Footfall.Admission

variable {now t : Moment}

/-- **Refilling on the way is not seen.** -/
theorem Bucket.min_available_add {b : Bucket ℚ} (hnow : b.lastRefill ≤ now) (ht : now ≤ t)
    (capacity : ℕ) :
    min (b.available capacity now + capacity * minutes now t) capacity =
      b.available capacity t := by
  have hrefill : (0 : ℚ) ≤ capacity * minutes now t :=
    mul_nonneg (Nat.cast_nonneg _) (minutes_nonneg _ _)
  have hcut : min ((capacity : ℚ) + capacity * minutes now t) capacity = capacity :=
    min_eq_right (by linarith)
  rw [available_eq, available_eq, ← min_add_add_right, min_assoc, hcut, ← minutes_add hnow ht,
    mul_add, add_assoc]

/-! ## One family of buckets -/

namespace Scope

/-- A family of which no bucket owes tokens or was refilled later than now. -/
structure Settled (now : Moment) (s : Scope ℚ) : Prop where
  solvent : s.Solvent
  refilled_le : ∀ identifier b, s.buckets.find? identifier = some b → b.lastRefill ≤ now

theorem settled_new (now : Moment) (limit : ℕ) : (Scope.new limit : Scope ℚ).Settled now := by
  constructor <;> intro identifier b hb <;> cases hb

namespace Settled

variable {s : Scope ℚ} {window : ℕ} {uses : List (Moment × Use)}

theorem mono (h : s.Settled now) (ht : now ≤ t) : s.Settled t :=
  ⟨h.solvent, fun identifier b hb => (h.refilled_le identifier b hb).trans ht⟩

theorem bucketOf_le (h : s.Settled now) (identifier : String) :
    (s.bucketOf identifier now).lastRefill ≤ now := by
  unfold bucketOf
  cases hfind : s.buckets.find? identifier with
  | none => exact le_refl now
  | some b => exact h.refilled_le identifier b hfind

/-- Every use keeps a family settled. -/
theorem apply (h : s.Settled now) (window : ℕ) (u : Use) : (s.apply window now u).Settled now := by
  refine ⟨h.solvent.apply window now u, fun identifier b hb => ?_⟩
  cases u with
  | take j =>
    rw [Scope.apply, find?_take] at hb
    split_ifs at hb with hj
    · rw [← Option.some.inj hb, Bucket.take_eq]
      exact max_le (h.bucketOf_le j) (le_refl now)
    · exact h.refilled_le identifier b hb
  | reconfigure limit => exact h.refilled_le identifier b hb
  | evictIdle =>
    rw [Scope.apply, find?_evictIdle, Option.filter_eq_some_iff] at hb
    exact h.refilled_le identifier b hb.1

/-- So does a sequence of uses at moments that do not go back. -/
theorem run (h : s.Settled now) (hnow : ∀ u ∈ uses, now ≤ u.1)
    (hsorted : uses.Pairwise fun u v => u.1 ≤ v.1) (hpast : ∀ u ∈ uses, u.1 ≤ t) (ht : now ≤ t) :
    (s.run window uses).Settled t := by
  induction uses generalizing s now with
  | nil => exact h.mono ht
  | cons u r ih =>
    obtain ⟨hlater, hsorted⟩ := List.pairwise_cons.1 hsorted
    have hstep := (h.mono (hnow u (by simp))).apply window u.2
    exact ih hstep hlater hsorted (fun v hv => hpast v (by simp [hv])) (hpast u (by simp))

/-- A later reading follows from the reading now. -/
theorem remaining_eq (h : s.Settled now) (ht : now ≤ t) (identifier : String) :
    s.remaining identifier t =
      min (s.remaining identifier now + s.capacity * minutes now t) s.capacity := by
  unfold remaining
  cases hfind : s.buckets.find? identifier with
  | none =>
    have hrefill : (0 : ℚ) ≤ s.capacity * minutes now t :=
      mul_nonneg (Nat.cast_nonneg _) (minutes_nonneg _ _)
    exact (min_eq_right (le_add_of_nonneg_right hrefill)).symm
  | some b => exact (Bucket.min_available_add (h.refilled_le identifier b hfind) ht _).symm

/-- What is read after a token was asked for, at any later moment. -/
theorem remaining_take (h : s.Settled now) (ht : now ≤ t) (identifier : String) :
    (s.take identifier now).2.remaining identifier t =
      min (s.remaining identifier now - (if 1 ≤ s.remaining identifier now then 1 else 0) +
        s.capacity * minutes now t) s.capacity := by
  have hafter : (s.take identifier now).2.Settled now := h.apply 0 (.take identifier)
  rw [hafter.remaining_eq ht, remaining_take_self, capacity_take]

/-- Asking in vain changes no later reading. -/
theorem remaining_take_of_refused (h : s.Settled now) (ht : now ≤ t) {identifier : String}
    (hrefused : (s.take identifier now).1 = false) (j : String) :
    (s.take identifier now).2.remaining j t = s.remaining j t := by
  by_cases hj : j = identifier
  · subst hj
    rw [take_fst_eq, decide_eq_false_iff_not] at hrefused
    rw [h.remaining_take ht, if_neg hrefused, sub_zero, ← h.remaining_eq ht]
  · exact s.remaining_take_of_ne identifier hj

/-- Dropping idle buckets changes no later reading. -/
theorem remaining_evictIdle (h : s.Settled now) (hwindow : 60000000000 ≤ window) (ht : now ≤ t)
    (identifier : String) :
    (s.evictIdle now window).2.remaining identifier t = s.remaining identifier t := by
  unfold remaining
  rw [find?_evictIdle]
  cases hfind : s.buckets.find? identifier with
  | none => rfl
  | some b =>
    by_cases hkeep : elapsed b.lastRefill now < window
    · rw [Option.filter_some_pos (by simpa using hkeep)]
      rfl
    · rw [Option.filter_some_neg (by simpa using hkeep)]
      have hidle : b.Idle now :=
        ⟨h.solvent identifier b hfind, hwindow.trans (not_lt.1 hkeep)⟩
      exact ((hidle.mono ht).available_eq s.capacity).symm

end Settled

end Scope

/-! ## Both families -/

namespace Controller

/-- A controller of which no bucket owes tokens or was refilled later than now. -/
structure Settled (now : Moment) (c : Controller ℚ) : Prop where
  address : c.address.Settled now
  apiKey : c.apiKey.Settled now

theorem settled_new (now : Moment) (addressLimit apiKeyLimit window : ℕ) :
    Settled now { new addressLimit apiKeyLimit with evictionWindow := window } :=
  ⟨Scope.settled_new now addressLimit, Scope.settled_new now apiKeyLimit⟩

/-- A run at moments that do not go back keeps a family settled. -/
theorem Follows.settled_after {family : Controller ℚ → Scope ℚ}
    {use : Record ℚ → Option (Moment × Use)} {granted : Record ℚ → Option String}
    (h : Follows family use granted) {c : Controller ℚ} {steps : List (Moment × Action)}
    (hc : (family c).Settled now) (hnow : ∀ s ∈ steps, now ≤ s.1)
    (hsorted : steps.Pairwise fun s t => s.1 ≤ t.1) (hpast : ∀ s ∈ steps, s.1 ≤ t) (ht : now ≤ t) :
    (family (c.after steps)).Settled t := by
  rw [h.family_after]
  exact hc.run (h.forall_uses hnow) (h.pairwise_uses hsorted)
    (h.forall_uses (p := fun m => m ≤ t) hpast) ht

/-- A controller is settled after any run from its start at moments that do not go back. -/
theorem settled_after (addressLimit apiKeyLimit window : ℕ) {steps : List (Moment × Action)}
    (hsorted : steps.Pairwise fun s t => s.1 ≤ t.1) (hpast : ∀ s ∈ steps, s.1 ≤ t) :
    (({ new addressLimit apiKeyLimit with evictionWindow := window } :
      Controller ℚ).after steps).Settled t := by
  obtain ⟨start, ht, hstart⟩ := exists_start steps t
  have hnew := settled_new start addressLimit apiKeyLimit window
  exact ⟨follows_address.settled_after hnew.address hstart hsorted hpast ht,
    follows_apiKey.settled_after hnew.apiKey hstart hsorted hpast ht⟩

end Controller

end Footfall.Admission
