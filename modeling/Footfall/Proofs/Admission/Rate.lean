import Footfall.Proofs.Admission.Bucket
import Footfall.Proofs.Admission.Run

/-!
# The rate bound of the token buckets

When no limit exceeds `C` requests a minute, an identifier is given at most `C` tokens and `C` more
for each minute of an interval of time, whatever happens to the limits and to its bucket meanwhile.

The argument keeps an account of an identifier since the beginning `a` of the interval. The tokens
it was given since `a`, together with those that its bucket holds, are at most what a full bucket
and the refill since `a` provide (`Bucket.Within`). An identifier without a bucket has a full one in
waiting; it may do so since a bucket is dropped only after a time in which it would have filled up
anyway, so that what was given out before is paid for by the refill alone (`Bucket.Within.drop`).
Every use of a family keeps the account (`Scope.within_apply`), hence so does a sequence of uses
(`Scope.count_grants_le`). For the admission control as a whole
this is `Controller.count_granted_le`.
-/

namespace Footfall.Admission

variable {C : ℚ} {a b now t : Moment} {n capacity : ℕ}

/-! ## One bucket -/

/-- The account of a bucket of which `n` tokens were given out since `a`. -/
structure Bucket.Within (C : ℚ) (a : Moment) (n : ℕ) (now : Moment) (b : Bucket ℚ) : Prop where
  tokens_nonneg : 0 ≤ b.tokens
  tokens_le : b.tokens ≤ C
  refilled_le : b.lastRefill ≤ now
  /-- Nothing was given out since `a` by a bucket that was not used since. -/
  unspent : b.lastRefill < a → n = 0
  spent_le : n + b.tokens ≤ C + C * minutes a b.lastRefill

namespace Bucket.Within

variable {k : Bucket ℚ}

theorem capacity_nonneg (h : k.Within C a n now) : 0 ≤ C :=
  h.tokens_nonneg.trans h.tokens_le

theorem mono (h : k.Within C a n now) (hnow : now ≤ t) : k.Within C a n t :=
  { h with refilled_le := h.refilled_le.trans hnow }

/-- Refilling keeps the account. -/
theorem spent_add_available_le (h : k.Within C a n now) (hnow : now ≤ t)
    (hcap : (capacity : ℚ) ≤ C) : n + k.available capacity t ≤ C + C * minutes a t := by
  rw [available_eq]
  rcases lt_or_ge k.lastRefill a with hlt | hge
  · have hC : 0 ≤ C * minutes a t := mul_nonneg h.capacity_nonneg (minutes_nonneg _ _)
    have hmin := min_le_right (k.tokens + capacity * minutes k.lastRefill t) (capacity : ℚ)
    rw [h.unspent hlt, Nat.cast_zero]
    linarith
  · have hrate : capacity * minutes k.lastRefill t ≤ C * minutes k.lastRefill t :=
      mul_le_mul_of_nonneg_right hcap (minutes_nonneg _ _)
    have hmin := min_le_left (k.tokens + capacity * minutes k.lastRefill t) (capacity : ℚ)
    calc (n : ℚ) + min (k.tokens + capacity * minutes k.lastRefill t) capacity
        ≤ n + k.tokens + C * minutes k.lastRefill t := by linarith
      _ ≤ C + C * minutes a k.lastRefill + C * minutes k.lastRefill t := by
        linarith [h.spent_le]
      _ = C + C * minutes a t := by
        rw [← minutes_add hge (h.refilled_le.trans hnow)]
        ring

/-- Asking for a token keeps the account. -/
theorem take (h : k.Within C a n now) (hnow : now ≤ t) (hcap : (capacity : ℚ) ≤ C) :
    (k.take capacity t).2.Within C a
      (n + if (k.take capacity t).1 = true ∧ a ≤ t then 1 else 0) t := by
  have hlast : max k.lastRefill t = t := max_eq_right (h.refilled_le.trans hnow)
  have hnonneg := k.available_nonneg capacity t h.tokens_nonneg
  have hspent := h.spent_add_available_le hnow hcap
  have hle : k.available capacity t ≤ C := by
    rw [available_eq]
    exact (min_le_right _ _).trans hcap
  have hfresh : t < a → n = 0 := fun ht => h.unspent ((h.refilled_le.trans hnow).trans_lt ht)
  rw [take_eq, hlast]
  simp only [decide_eq_true_eq]
  refine ⟨?_, ?_, le_refl t, fun ht => ?_, ?_⟩
  · split_ifs <;> linarith
  · split_ifs <;> linarith
  · rw [hfresh ht, if_neg fun h => absurd ht (not_lt.2 h.2)]
  · simp only
    by_cases h1 : 1 ≤ k.available capacity t <;> by_cases hat : a ≤ t <;>
      simp only [h1, hat, and_self, and_true, and_false, if_true, if_false] <;> push_cast <;>
      linarith

/-- A bucket that is dropped after a minute without use leaves the account of a full one. -/
theorem drop (h : k.Within C a n now) (hidle : 60000000000 ≤ elapsed k.lastRefill t) :
    (n : ℚ) ≤ C * minutes a t := by
  have hone := one_le_minutes hidle
  have hC := h.capacity_nonneg
  rcases lt_or_ge k.lastRefill a with hlt | hge
  · rw [h.unspent hlt, Nat.cast_zero]
    exact mul_nonneg hC (minutes_nonneg _ _)
  · have hle : k.lastRefill ≤ t := le_of_elapsed_pos (by omega)
    calc (n : ℚ) ≤ C * minutes a k.lastRefill + C * 1 := by
          linarith [h.spent_le, h.tokens_nonneg]
      _ ≤ C * minutes a k.lastRefill + C * minutes k.lastRefill t := by gcongr
      _ = C * minutes a t := by rw [← minutes_add hge hle, mul_add]

end Bucket.Within

theorem Bucket.within_full (hn : (n : ℚ) ≤ C * minutes a now) (hnow : now ≤ t)
    (hcap : (capacity : ℚ) ≤ C) : (Bucket.full capacity t).Within C a n t := by
  have hC : 0 ≤ C := (Nat.cast_nonneg _).trans hcap
  have hn' : (n : ℚ) ≤ C * minutes a t :=
    hn.trans (mul_le_mul_of_nonneg_left (minutes_le_right hnow) hC)
  refine ⟨Nat.cast_nonneg capacity, hcap, le_refl t, fun ht => ?_, ?_⟩
  · have ht : t < a := ht
    rw [minutes_of_ge ht.le, mul_zero] at hn'
    exact_mod_cast le_antisymm hn' (Nat.cast_nonneg n)
  · change (n : ℚ) + capacity ≤ C + C * minutes a t
    linarith

/-! ## A family of buckets -/

/-- The account of an identifier, with or without a bucket. -/
def Within (C : ℚ) (a : Moment) (n : ℕ) (now : Moment) : Option (Bucket ℚ) → Prop
  | none => (n : ℚ) ≤ C * minutes a now
  | some k => k.Within C a n now

theorem Within.mono {o : Option (Bucket ℚ)} (h : Within C a n now o) (hC : 0 ≤ C)
    (hnow : now ≤ t) : Within C a n t o := by
  cases o with
  | none => exact le_trans h (mul_le_mul_of_nonneg_left (minutes_le_right hnow) hC)
  | some k => exact Bucket.Within.mono h hnow

/-- What was given out is at most a full bucket and the refill. -/
theorem Within.le {o : Option (Bucket ℚ)} (h : Within C a n now o) (hC : 0 ≤ C) (hb : now ≤ b) :
    (n : ℚ) ≤ C + C * minutes a b := by
  have hmono : C * minutes a now ≤ C * minutes a b :=
    mul_le_mul_of_nonneg_left (minutes_le_right hb) hC
  cases o with
  | none =>
    have h : (n : ℚ) ≤ C * minutes a now := h
    linarith
  | some k =>
    have hlast : C * minutes a k.lastRefill ≤ C * minutes a now :=
      mul_le_mul_of_nonneg_left (minutes_le_right (Bucket.Within.refilled_le h)) hC
    linarith [Bucket.Within.spent_le h, Bucket.Within.tokens_nonneg h]

/-- Dropping an idle bucket keeps the account. -/
theorem Within.filter {o : Option (Bucket ℚ)} {window : ℕ} (h : Within C a n now o) (hC : 0 ≤ C)
    (hnow : now ≤ t) (hwindow : 60000000000 ≤ window) :
    Within C a n t (o.filter fun k => decide (elapsed k.lastRefill t < window)) := by
  cases o with
  | none => exact h.mono hC hnow
  | some k =>
    by_cases hkeep : elapsed k.lastRefill t < window
    · rw [Option.filter_some_pos (by simpa using hkeep)]
      exact h.mono hC hnow
    · rw [Option.filter_some_neg (by simpa using hkeep)]
      exact Bucket.Within.drop h (hwindow.trans (not_lt.1 hkeep))

namespace Scope

variable {s : Scope ℚ} {window : ℕ} {identifier : String}

/-- The bucket that a token is taken from: without one of its own, an identifier has a full one. -/
theorem within_bucketOf (h : Within C a n now (s.buckets.find? identifier)) (hnow : now ≤ t)
    (hcap : (s.capacity : ℚ) ≤ C) : (s.bucketOf identifier t).Within C a n t := by
  rw [bucketOf]
  cases hfind : s.buckets.find? identifier with
  | none =>
    rw [hfind] at h
    exact Bucket.within_full h hnow hcap
  | some k =>
    rw [hfind] at h
    exact Bucket.Within.mono h hnow

theorem granted?_take (s : Scope ℚ) (now : Moment) (j identifier : String) :
    s.granted? now (.take j) = some identifier ↔
      j = identifier ∧ ((s.bucketOf j now).take s.capacity now).1 = true := by
  rw [granted?, take_fst]
  split_ifs with h <;> simp [h]

/-- **Every use keeps the account**, if a bucket is dropped only after a minute. -/
theorem within_apply (h : Within C a n now (s.buckets.find? identifier)) (hnow : now ≤ t)
    (hcap : (s.capacity : ℚ) ≤ C) (hwindow : 60000000000 ≤ window) (u : Use) :
    Within C a (n + if s.granted? t u = some identifier ∧ a ≤ t then 1 else 0) t
      ((s.apply window t u).buckets.find? identifier) := by
  have hC : 0 ≤ C := (Nat.cast_nonneg _).trans hcap
  cases u with
  | take j =>
    rw [apply, find?_take]
    simp only [granted?_take]
    by_cases hj : identifier = j
    · subst hj
      simp only [if_true, true_and]
      exact (within_bucketOf h hnow hcap).take (le_refl t) hcap
    · simp only [if_neg hj, Ne.symm hj, false_and, if_false]
      exact h.mono hC hnow
  | reconfigure limit => exact h.mono hC hnow
  | evictIdle =>
    rw [apply, find?_evictIdle, if_neg (by simp [granted?])]
    exact h.filter hC hnow hwindow

theorem exists_of_mem_grants {uses : List (Moment × Use)} {g : Moment × String}
    (hg : g ∈ s.grants window uses) : ∃ u ∈ uses, u.1 = g.1 := by
  induction uses generalizing s with
  | nil => simp [grants] at hg
  | cons u r ih =>
    rw [grants, List.mem_append] at hg
    rcases hg with hg | hg
    · obtain ⟨i, -, rfl⟩ := Option.map_eq_some_iff.1 (Option.mem_toList.1 hg)
      exact ⟨u, by simp, rfl⟩
    · obtain ⟨u', hu', h⟩ := ih hg
      exact ⟨u', by simp [hu'], h⟩

/-- The limits that a sequence of uses sets are at most `C`. -/
def LimitsLe (C : ℚ) (uses : List (Moment × Use)) : Prop :=
  ∀ u ∈ uses, ∀ limit, u.2 = .reconfigure limit → ((max limit 1 : ℕ) : ℚ) ≤ C

theorem capacity_apply_le (hcap : (s.capacity : ℚ) ≤ C) {u : Use}
    (hu : ∀ limit, u = .reconfigure limit → ((max limit 1 : ℕ) : ℚ) ≤ C) :
    ((s.apply window t u).capacity : ℚ) ≤ C := by
  cases u with
  | take j => exact hcap
  | reconfigure limit => exact hu limit rfl
  | evictIdle => exact hcap

/-- The tokens given out to an identifier from `a` to `b`. -/
def grantsBetween (a b : Moment) (identifier : String) (grants : List (Moment × String)) : ℕ :=
  grants.countP fun g => decide (g.2 = identifier ∧ a ≤ g.1 ∧ g.1 ≤ b)

/-- A sequence of uses gives out no more than the account allows. -/
theorem count_grants_le (hwindow : 60000000000 ≤ window) {uses : List (Moment × Use)}
    (hsorted : uses.Pairwise fun u v => u.1 ≤ v.1) (hlimits : LimitsLe C uses)
    (h : Within C a n now (s.buckets.find? identifier)) (hcap : (s.capacity : ℚ) ≤ C)
    (hnow : ∀ u ∈ uses, now ≤ u.1) (hb : now ≤ b) :
    ((n + grantsBetween a b identifier (s.grants window uses) : ℕ) : ℚ) ≤
      C + C * minutes a b := by
  have hC : 0 ≤ C := (Nat.cast_nonneg _).trans hcap
  induction uses generalizing s n now with
  | nil => simpa [grantsBetween, grants] using h.le hC hb
  | cons u r ih =>
    obtain ⟨t, u⟩ := u
    obtain ⟨hlater, hsorted'⟩ := List.pairwise_cons.1 hsorted
    rcases le_or_gt t b with htb | hbt
    · have hstep := within_apply h (hnow (t, u) (by simp)) hcap hwindow u
      have hrest := ih hsorted' (fun v hv => hlimits v (by simp [hv])) hstep
        (capacity_apply_le hcap (hlimits (t, u) (by simp))) hlater htb
      have hhead : grantsBetween a b identifier
          (((s.granted? t u).map fun i => (t, i)).toList) =
            if s.granted? t u = some identifier ∧ a ≤ t then 1 else 0 := by
        cases s.granted? t u <;> simp [grantsBetween, htb]
      rw [grants, grantsBetween, List.countP_append, ← grantsBetween, ← grantsBetween, hhead,
        ← Nat.add_assoc]
      exact hrest
    · -- the rest of the uses comes after the interval
      have hnone : grantsBetween a b identifier (s.grants window ((t, u) :: r)) = 0 := by
        rw [grantsBetween, List.countP_eq_zero]
        intro g hg
        obtain ⟨v, hv, heq⟩ := exists_of_mem_grants hg
        have htv : t ≤ v.1 := by
          rcases List.mem_cons.1 hv with rfl | hv
          · exact le_refl _
          · exact hlater v hv
        simp only [decide_eq_true_eq, not_and, not_le]
        intro _ _
        rw [← heq]
        exact hbt.trans_le htv
      rw [hnone, Nat.add_zero]
      exact h.le hC hb

end Scope

/-! ## The admission control -/

namespace Controller

variable {c : Controller ℚ} {steps : List (Moment × Action)} {family : Controller ℚ → Scope ℚ}
  {use : Record ℚ → Option (Moment × Use)} {granted : Record ℚ → Option String}

/-- A limit that a family is given is in force after it. -/
theorem Follows.limitsLe (h : Follows family use granted)
    (hlimits : ∀ i, ((family (c.after (steps.take i))).capacity : ℚ) ≤ C) :
    Scope.LimitsLe C ((c.trace steps).filterMap use) := by
  induction steps generalizing c with
  | nil => simp [trace, Scope.LimitsLe]
  | cons s r ih =>
    obtain ⟨now, act⟩ := s
    have hrest := ih (c := (c.step now act).2) fun i => hlimits (i + 1)
    have hstep := h c now act
    rw [trace, List.filterMap_cons]
    cases hu : use ⟨now, act, (c.step now act).1⟩ with
    | none => exact hrest
    | some u =>
      simp only [hu] at hstep
      refine List.forall_mem_cons.2 ⟨fun limit hlimit => ?_, hrest⟩
      have hone := hlimits 1
      rw [List.take_succ_cons, List.take_zero, after, after, hstep.2.1, hlimit] at hone
      exact hone

/-- The rate bound of a family that follows its uses. -/
theorem Follows.count_le (h : Follows family use granted)
    (hwindow : 60000000000 ≤ c.evictionWindow) (hsorted : steps.Pairwise fun s t => s.1 ≤ t.1)
    (hlimits : ∀ i, ((family (c.after (steps.take i))).capacity : ℚ) ≤ C) {identifier : String}
    (hnew : (family c).buckets.find? identifier = none) :
    (((c.trace steps).countP fun r =>
      decide (granted r = some identifier ∧ a ≤ r.moment ∧ r.moment ≤ b) : ℕ) : ℚ) ≤
      C + C * minutes a b := by
  have hcap : ((family c).capacity : ℚ) ≤ C := hlimits 0
  have hC : 0 ≤ C := (Nat.cast_nonneg _).trans hcap
  -- the account is opened before anything happens, and before the interval ends
  obtain ⟨start, hb, hstart⟩ := exists_start steps b
  have hopen : Within C a 0 start ((family c).buckets.find? identifier) := by
    rw [hnew]
    exact le_of_eq_of_le Nat.cast_zero (mul_nonneg hC (minutes_nonneg _ _))
  have hcount := Scope.count_grants_le hwindow (h.pairwise_uses hsorted) (h.limitsLe hlimits) hopen
    hcap (h.forall_uses hstart) hb
  rw [Nat.zero_add, ← h.grants_eq, Scope.grantsBetween, List.countP_filterMap] at hcount
  refine le_of_eq_of_le ?_ hcount
  congr 2
  funext r
  cases granted r <;> simp

/-- Every limit in force in the course of a run is at most `C`. -/
def LimitsLe (C : ℚ) (c : Controller ℚ) (steps : List (Moment × Action)) : Prop :=
  ∀ i, ((c.after (steps.take i)).address.capacity : ℚ) ≤ C ∧
    ((c.after (steps.take i)).apiKey.capacity : ℚ) ≤ C

/-- **The rate bound.** In the course of any run at moments that do not go back, in which no limit
is ever above `C`, any address passes at most `C + C (b - a) / 60` of its checks from `a` to `b`,
and of the checks of any key at most as many are admitted. -/
theorem count_granted_le {addressLimit apiKeyLimit : ℕ}
    (hsorted : steps.Pairwise fun s t => s.1 ≤ t.1)
    (hlimits : LimitsLe C (new addressLimit apiKeyLimit) steps) (hab : a ≤ b) :
    (∀ address : String,
      ((((new addressLimit apiKeyLimit : Controller ℚ).trace steps).countP fun r =>
        decide (r.passed? = some address ∧ a ≤ r.moment ∧ r.moment ≤ b) : ℕ) : ℚ) ≤
        C + C * (((b - a : Int) : ℚ) / 1000000000) / 60) ∧
    ∀ key : String,
      ((((new addressLimit apiKeyLimit : Controller ℚ).trace steps).countP fun r =>
        decide (r.admitted? = some key ∧ a ≤ r.moment ∧ r.moment ≤ b) : ℕ) : ℚ) ≤
        C + C * (((b - a : Int) : ℚ) / 1000000000) / 60 := by
  have hwindow : 60000000000 ≤ (new addressLimit apiKeyLimit : Controller ℚ).evictionWindow := by
    change 60000000000 ≤ 600 * 1000000000
    norm_num
  rw [mul_div_assoc, ← minutes_of_le hab]
  exact ⟨fun address => follows_address.count_le hwindow hsorted
      (fun i => (hlimits i).1) rfl,
    fun key => follows_apiKey.count_le hwindow hsorted (fun i => (hlimits i).2) rfl⟩

/-- A run in which a bucket is used up, gets another limit, is dropped and used again. -/
theorem count_granted_le_changing_limits :
    LimitsLe 3 (new 2 3)
      [(0, .check "x" "k"), (0, .check "x" "k"), (0, .check "x" "k"),
        (30000000000, .reconfigure 1 3), (700000000000, .evictIdle),
        (700000000000, .check "x" "k")] ∧
      ((((new 2 3 : Controller ℚ).trace
        [(0, .check "x" "k"), (0, .check "x" "k"), (0, .check "x" "k"),
          (30000000000, .reconfigure 1 3), (700000000000, .evictIdle),
          (700000000000, .check "x" "k")]).countP fun r =>
        decide (r.passed? = some "x" ∧ 0 ≤ r.moment ∧ r.moment ≤ 700000000000) : ℕ) : ℚ) ≤
        3 + 3 * (((700000000000 - 0 : Int) : ℚ) / 1000000000) / 60 := by
  have hlimits : LimitsLe 3 (new 2 3)
      [(0, .check "x" "k"), (0, .check "x" "k"), (0, .check "x" "k"),
        (30000000000, .reconfigure 1 3), (700000000000, .evictIdle),
        (700000000000, .check "x" "k")] := by
    intro i
    rcases i with _ | _ | _ | _ | _ | _ | i
    · decide +kernel
    · decide +kernel
    · decide +kernel
    · decide +kernel
    · decide +kernel
    · decide +kernel
    · rw [List.take_of_length_le (by simp)]
      decide +kernel
  exact ⟨hlimits, (count_granted_le (by decide) hlimits (by decide)).1 "x"⟩

end Controller

end Footfall.Admission
