import Footfall.Proofs.Admission.Bucket
import Footfall.Proofs.Admission.Run

/-!
# Dropping idle buckets

Nobody notices whether idle buckets are dropped. A bucket that was not used for a minute is full,
whatever the capacity has become meanwhile (`Bucket.Idle.available_eq`), and an identifier without
a bucket is treated as having a full one, so a token is taken from either in the same way
(`Bucket.Idle.take_eq`).

Two runs that differ in some evictions are therefore compared by what they hold for each
identifier: the same bucket, or none in the one and an idle bucket in the other (`Covers`). Every
action gives the same answer on both sides and keeps the comparison, and so does an eviction that
only one side makes (`Controller.Covers.step`, `Controller.Covers.evictIdle`). By induction over
the run, what is observed of it does not depend on its evictions
(`Controller.observed_trace_eq_of_fewerEvictions`).
-/

namespace Footfall.Admission

variable {now t : Moment} {capacity : ℕ}

/-! ## An idle bucket -/

/-- A bucket that was not used for a minute. -/
structure Bucket.Idle (now : Moment) (b : Bucket ℚ) : Prop where
  tokens_nonneg : 0 ≤ b.tokens
  minute_le : 60000000000 ≤ elapsed b.lastRefill now

namespace Bucket.Idle

variable {b : Bucket ℚ}

theorem mono (h : b.Idle now) (ht : now ≤ t) : b.Idle t :=
  ⟨h.tokens_nonneg, h.minute_le.trans (elapsed_le_right ht)⟩

theorem lastRefill_le (h : b.Idle now) : b.lastRefill ≤ now :=
  le_of_elapsed_pos (by have := h.minute_le; omega)

/-- An idle bucket is full, whatever its capacity. -/
theorem available_eq (h : b.Idle now) (capacity : ℕ) : b.available capacity now = capacity := by
  have hrefill : (capacity : ℚ) ≤ capacity * minutes b.lastRefill now :=
    le_mul_of_one_le_right (Nat.cast_nonneg _) (one_le_minutes h.minute_le)
  rw [Bucket.available_eq, min_eq_right]
  linarith [h.tokens_nonneg]

/-- A token is taken from an idle bucket as from a full one. -/
theorem take_eq (h : b.Idle now) (capacity : ℕ) :
    b.take capacity now = (full capacity now).take capacity now := by
  rw [Bucket.take_eq, Bucket.take_eq, h.available_eq, available_full, max_eq_right h.lastRefill_le]
  simp [full]

end Bucket.Idle

/-! ## Two families of buckets -/

/-- What two families hold for an identifier, when the first may have dropped idle buckets that the
second kept. -/
inductive Covers (now : Moment) : Option (Bucket ℚ) → Option (Bucket ℚ) → Prop where
  | none : Covers now none none
  | same (b : Bucket ℚ) (tokens_nonneg : 0 ≤ b.tokens) : Covers now (some b) (some b)
  | dropped (b : Bucket ℚ) (idle : b.Idle now) : Covers now Option.none (some b)

namespace Covers

variable {o p : Option (Bucket ℚ)} {window : ℕ}

theorem mono (h : Covers now o p) (ht : now ≤ t) : Covers t o p := by
  cases h with
  | none => exact none
  | same b hb => exact same b hb
  | dropped b hb => exact dropped b (hb.mono ht)

/-- A bucket that the first family drops is idle. -/
theorem filter_left (h : Covers now o p) (hwindow : 60000000000 ≤ window) :
    Covers now (o.filter fun b => decide (elapsed b.lastRefill now < window)) p := by
  cases h with
  | none => exact none
  | dropped b hb => exact dropped b hb
  | same b hb =>
    by_cases hkeep : elapsed b.lastRefill now < window
    · rw [Option.filter_some_pos (by simpa using hkeep)]
      exact same b hb
    · rw [Option.filter_some_neg (by simpa using hkeep)]
      exact dropped b ⟨hb, hwindow.trans (not_lt.1 hkeep)⟩

theorem filter (h : Covers now o p) :
    Covers now (o.filter fun b => decide (elapsed b.lastRefill now < window))
      (p.filter fun b => decide (elapsed b.lastRefill now < window)) := by
  cases h with
  | none => exact none
  | same b hb =>
    by_cases hkeep : elapsed b.lastRefill now < window
    · rw [Option.filter_some_pos (by simpa using hkeep)]
      exact same b hb
    · rw [Option.filter_some_neg (by simpa using hkeep)]
      exact none
  | dropped b hb =>
    by_cases hkeep : elapsed b.lastRefill now < window
    · rw [Option.filter_some_pos (by simpa using hkeep)]
      exact dropped b hb
    · rw [Option.filter_some_neg (by simpa using hkeep)]
      exact none

end Covers

/-- Two families of which the first may have dropped idle buckets that the second kept. -/
structure Scope.Covers (now : Moment) (s u : Scope ℚ) : Prop where
  capacity_eq : s.capacity = u.capacity
  buckets : ∀ identifier, Admission.Covers now (s.buckets.find? identifier)
    (u.buckets.find? identifier)

namespace Scope.Covers

variable {s u : Scope ℚ} {window : ℕ}

theorem mono (h : s.Covers now u) (ht : now ≤ t) : s.Covers t u :=
  ⟨h.capacity_eq, fun identifier => (h.buckets identifier).mono ht⟩

theorem bucketOf_nonneg (h : s.Covers now u) (identifier : String) :
    0 ≤ (s.bucketOf identifier now).tokens := by
  have hbuckets := h.buckets identifier
  rw [Scope.bucketOf]
  generalize s.buckets.find? identifier = o, u.buckets.find? identifier = p at hbuckets ⊢
  cases hbuckets with
  | none => exact Nat.cast_nonneg s.capacity
  | same b hb => exact hb
  | dropped b hb => exact Nat.cast_nonneg s.capacity

/-- A token is taken from the buckets of both families in the same way. -/
theorem take_bucketOf (h : s.Covers now u) (identifier : String) :
    (s.bucketOf identifier now).take s.capacity now =
      (u.bucketOf identifier now).take u.capacity now := by
  have hbuckets := h.buckets identifier
  rw [Scope.bucketOf, Scope.bucketOf, ← h.capacity_eq]
  generalize s.buckets.find? identifier = o, u.buckets.find? identifier = p at hbuckets ⊢
  cases hbuckets with
  | none => rfl
  | same b hb => rfl
  | dropped b hb => exact (hb.take_eq s.capacity).symm

theorem take (h : s.Covers now u) (identifier : String) :
    (s.take identifier now).1 = (u.take identifier now).1 ∧
      (s.take identifier now).2.Covers now (u.take identifier now).2 := by
  have htake := h.take_bucketOf identifier
  refine ⟨?_, h.capacity_eq, fun j => ?_⟩
  · rw [Scope.take_fst, Scope.take_fst, htake]
  rw [Scope.find?_take, Scope.find?_take, ← htake]
  by_cases hj : j = identifier
  · rw [if_pos hj, if_pos hj]
    exact .same _ (Bucket.take_nonneg _ _ _ (h.bucketOf_nonneg identifier))
  · rw [if_neg hj, if_neg hj]
    exact h.buckets j

theorem remaining_eq (h : s.Covers now u) (identifier : String) :
    s.remaining identifier now = u.remaining identifier now := by
  have hbuckets := h.buckets identifier
  rw [Scope.remaining, Scope.remaining, ← h.capacity_eq]
  generalize s.buckets.find? identifier = o, u.buckets.find? identifier = p at hbuckets ⊢
  cases hbuckets with
  | none => rfl
  | same b hb => rfl
  | dropped b hb => exact (hb.available_eq s.capacity).symm

theorem reconfigure (h : s.Covers now u) (limit : ℕ) :
    (s.reconfigure limit).Covers now (u.reconfigure limit) :=
  ⟨rfl, h.buckets⟩

theorem evictIdle (h : s.Covers now u) {window' : ℕ} (hwindow : window = window') :
    (s.evictIdle now window).2.Covers now (u.evictIdle now window').2 := by
  subst hwindow
  refine ⟨h.capacity_eq, fun identifier => ?_⟩
  rw [Scope.find?_evictIdle, Scope.find?_evictIdle]
  exact (h.buckets identifier).filter

theorem evictIdle_left (h : s.Covers now u) (hwindow : 60000000000 ≤ window) :
    (s.evictIdle now window).2.Covers now u := by
  refine ⟨h.capacity_eq, fun identifier => ?_⟩
  rw [Scope.find?_evictIdle]
  exact (h.buckets identifier).filter_left hwindow

end Scope.Covers

/-! ## Runs that differ in their evictions -/

namespace Controller

/-- Two controllers of which the first may have dropped idle buckets that the second kept. -/
structure Covers (now : Moment) (c d : Controller ℚ) : Prop where
  address : c.address.Covers now d.address
  apiKey : c.apiKey.Covers now d.apiKey
  evictionWindow_eq : c.evictionWindow = d.evictionWindow

theorem covers_new (now : Moment) (addressLimit apiKeyLimit window : ℕ) :
    Covers now { new addressLimit apiKeyLimit with evictionWindow := window }
      { new addressLimit apiKeyLimit with evictionWindow := window } :=
  ⟨⟨rfl, fun _ => .none⟩, ⟨rfl, fun _ => .none⟩, rfl⟩

namespace Covers

variable {c d : Controller ℚ}

theorem mono (h : c.Covers now d) (ht : now ≤ t) : c.Covers t d :=
  ⟨h.address.mono ht, h.apiKey.mono ht, h.evictionWindow_eq⟩

theorem check (h : c.Covers now d) (address key : String) :
    (c.check address key now).1 = (d.check address key now).1 ∧
      (c.check address key now).2.Covers now (d.check address key now).2 := by
  obtain ⟨haddress, hafter⟩ := h.address.take address
  obtain ⟨hkey, hafter'⟩ := h.apiKey.take key
  rw [check_eq, check_eq, ← haddress, ← hkey, ← h.address.capacity_eq, ← h.apiKey.capacity_eq]
  split_ifs
  · exact ⟨rfl, hafter, hafter', h.evictionWindow_eq⟩
  · exact ⟨rfl, hafter, hafter', h.evictionWindow_eq⟩
  · exact ⟨rfl, hafter, h.apiKey, h.evictionWindow_eq⟩

theorem status_eq (h : c.Covers now d) (address key : String) :
    c.status address key now = d.status address key now := by
  rw [status, status, h.address.remaining_eq, h.apiKey.remaining_eq, h.address.capacity_eq,
    h.apiKey.capacity_eq]

/-- An eviction keeps the comparison if both sides make it. -/
theorem step_evictIdle (h : c.Covers now d) :
    (c.step now .evictIdle).2.Covers now (d.step now .evictIdle).2 :=
  ⟨h.address.evictIdle h.evictionWindow_eq, h.apiKey.evictIdle h.evictionWindow_eq,
    h.evictionWindow_eq⟩

/-- An eviction keeps the comparison if only the first side makes it. -/
theorem evictIdle_left (h : c.Covers now d) (hwindow : 60000000000 ≤ c.evictionWindow) :
    (c.step now .evictIdle).2.Covers now d :=
  ⟨h.address.evictIdle_left hwindow, h.apiKey.evictIdle_left hwindow, h.evictionWindow_eq⟩

/-- Every action but an eviction is answered alike, and every action keeps the comparison. -/
theorem step (h : c.Covers now d) (a : Action) :
    (a ≠ .evictIdle → (c.step now a).1 = (d.step now a).1) ∧
      (c.step now a).2.Covers now (d.step now a).2 := by
  cases a with
  | check address key =>
    obtain ⟨hanswer, hafter⟩ := h.check address key
    exact ⟨fun _ => congrArg Answer.outcome hanswer, hafter⟩
  | status address key => exact ⟨fun _ => congrArg Answer.status (h.status_eq address key), h⟩
  | reconfigure addressLimit apiKeyLimit =>
    exact ⟨fun _ => rfl, h.address.reconfigure _, h.apiKey.reconfigure _, h.evictionWindow_eq⟩
  | evictIdle => exact ⟨fun hne => absurd rfl hne, h.step_evictIdle⟩

end Covers

/-- A run without some of the evictions of another. -/
inductive FewerEvictions : List (Moment × Action) → List (Moment × Action) → Prop where
  | nil : FewerEvictions [] []
  | keep (s : Moment × Action) {fewer steps : List (Moment × Action)}
      (h : FewerEvictions fewer steps) : FewerEvictions (s :: fewer) (s :: steps)
  | drop (now : Moment) {fewer steps : List (Moment × Action)}
      (h : FewerEvictions fewer steps) : FewerEvictions fewer ((now, .evictIdle) :: steps)

end Controller

/-- What is observed of a run: every action with its answer, but for the evictions. -/
def observed (records : List (Record ℚ)) : List (Record ℚ) :=
  records.filter fun r => decide (r.action ≠ .evictIdle)

theorem observed_cons_congr {r q : Record ℚ} {records records' : List (Record ℚ)}
    (hmoment : r.moment = q.moment) (haction : r.action = q.action)
    (hanswer : r.action ≠ .evictIdle → r.answer = q.answer)
    (h : observed records = observed records') :
    observed (r :: records) = observed (q :: records') := by
  obtain ⟨moment, action, answer⟩ := r
  obtain ⟨moment', action', answer'⟩ := q
  obtain rfl : moment = moment' := hmoment
  obtain rfl : action = action' := haction
  simp only [observed, List.filter_cons] at h ⊢
  by_cases hne : action = .evictIdle
  · simpa [hne] using h
  · obtain rfl : answer = answer' := hanswer hne
    simpa [hne] using h

namespace Controller

variable {c d : Controller ℚ} {fewer steps : List (Moment × Action)}

/-- Two controllers that agree up to idle buckets are observed to do the same, if the first makes
evictions that the second does not make. -/
theorem Covers.observed_trace_eq (h : c.Covers now d) (hdel : FewerEvictions fewer steps)
    (hwindow : 60000000000 ≤ c.evictionWindow) (hnow : ∀ s ∈ steps, now ≤ s.1)
    (hsorted : steps.Pairwise fun s t => s.1 ≤ t.1) :
    observed (c.trace steps) = observed (d.trace fewer) := by
  induction hdel generalizing c d now with
  | nil => rfl
  | @keep s fewer steps hdel ih =>
    obtain ⟨t, a⟩ := s
    obtain ⟨hlater, hsorted⟩ := List.pairwise_cons.1 hsorted
    obtain ⟨hanswer, hafter⟩ := (h.mono (hnow (t, a) (by simp))).step a
    rw [trace, trace]
    refine observed_cons_congr rfl rfl hanswer (ih hafter ?_ hlater hsorted)
    rwa [evictionWindow_step]
  | @drop t fewer steps hdel ih =>
    obtain ⟨hlater, hsorted⟩ := List.pairwise_cons.1 hsorted
    have hafter := (h.mono (hnow (t, .evictIdle) (by simp))).evictIdle_left hwindow
    have hrest := ih hafter (by rwa [evictionWindow_step]) hlater hsorted
    rw [trace, ← hrest]
    simp [observed]

/-- **Evictions cannot be observed.** When buckets are dropped only after a minute or more without
use, the answers to all checks and all readings of the buckets in a run at moments that do not go
back are the same if any of its evictions are left out. -/
theorem observed_trace_eq_of_fewerEvictions {addressLimit apiKeyLimit window : ℕ}
    (hwindow : 60000000000 ≤ window) (hsorted : steps.Pairwise fun s t => s.1 ≤ t.1)
    (hdel : FewerEvictions fewer steps) :
    observed
        (({ new addressLimit apiKeyLimit with evictionWindow := window } : Controller ℚ).trace
          steps) =
      observed
        (({ new addressLimit apiKeyLimit with evictionWindow := window } : Controller ℚ).trace
          fewer) := by
  obtain ⟨start, hstart⟩ : ∃ start, ∀ s ∈ steps, start ≤ s.1 := by
    cases steps with
    | nil => exact ⟨(0 : Int), by simp⟩
    | cons s r =>
      exact ⟨s.1, List.forall_mem_cons.2 ⟨le_refl _, (List.pairwise_cons.1 hsorted).1⟩⟩
  exact (covers_new start addressLimit apiKeyLimit window).observed_trace_eq hdel hwindow hstart
    hsorted

/-- A run whose first eviction drops both buckets a minute after their use, at a time when the
limits change, and whose second eviction drops nothing; only the second is left in. -/
theorem observed_trace_eq_of_dropped_buckets :
    60000000000 ≤ 60000000000 ∧
      FewerEvictions
        [(0, .check "x" "k"), (0, .check "x" "k"), (60000000000, .reconfigure 5 1),
          (60000000000, .status "x" "k"), (60000000000, .check "x" "k"),
          (90000000000, .evictIdle), (90000000000, .check "x" "k")]
        [(0, .check "x" "k"), (0, .check "x" "k"), (60000000000, .evictIdle),
          (60000000000, .reconfigure 5 1), (60000000000, .status "x" "k"),
          (60000000000, .check "x" "k"), (90000000000, .evictIdle),
          (90000000000, .check "x" "k")] ∧
      observed
          (({ new 1 2 with evictionWindow := 60000000000 } : Controller ℚ).trace
            [(0, .check "x" "k"), (0, .check "x" "k"), (60000000000, .evictIdle),
              (60000000000, .reconfigure 5 1), (60000000000, .status "x" "k"),
              (60000000000, .check "x" "k"), (90000000000, .evictIdle),
              (90000000000, .check "x" "k")]) =
        observed
          (({ new 1 2 with evictionWindow := 60000000000 } : Controller ℚ).trace
            [(0, .check "x" "k"), (0, .check "x" "k"), (60000000000, .reconfigure 5 1),
              (60000000000, .status "x" "k"), (60000000000, .check "x" "k"),
              (90000000000, .evictIdle), (90000000000, .check "x" "k")]) := by
  have hfewer : FewerEvictions
      [(0, .check "x" "k"), (0, .check "x" "k"), (60000000000, .reconfigure 5 1),
        (60000000000, .status "x" "k"), (60000000000, .check "x" "k"),
        (90000000000, .evictIdle), (90000000000, .check "x" "k")]
      [(0, .check "x" "k"), (0, .check "x" "k"), (60000000000, .evictIdle),
        (60000000000, .reconfigure 5 1), (60000000000, .status "x" "k"),
        (60000000000, .check "x" "k"), (90000000000, .evictIdle),
        (90000000000, .check "x" "k")] :=
    .keep _ (.keep _ (.drop _ (.keep _ (.keep _ (.keep _ (.keep _ (.keep _ .nil)))))))
  exact ⟨le_refl _, hfewer,
    observed_trace_eq_of_fewerEvictions (le_refl _) (by decide) hfewer⟩

end Controller

end Footfall.Admission
