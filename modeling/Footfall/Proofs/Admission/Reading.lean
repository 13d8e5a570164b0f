import Mathlib.Algebra.Order.Floor.Semiring
import Mathlib.Data.Rat.Floor
import Footfall.Proofs.Admission.Bucket
import Footfall.Proofs.Admission.Run

/-!
# What a reading of the buckets announces

Reading a bucket computes what asking it for a token would compute, without writing it down. So a
reading tells what a check at the same moment decides, and the reading after the check tells what it
cost.

* A token is given exactly if a whole one is read, and the next reading is lower by it
  (`Scope.take_fst_eq`, `Scope.remaining_take_self`); nobody else's reading changes
  (`Scope.remaining_take_of_ne`).
* No bucket ever owes tokens (`Scope.Solvent`), whatever the clock does: every use of a family keeps
  this, so it holds after every run (`Controller.solvent_after`).
* `Controller.check_as_read` puts this together for both families and goes on to any number of
  checks at one moment.
-/

namespace Footfall.Admission

variable {now t : Moment}

namespace Bucket

variable (b : Bucket ℚ) (capacity : ℕ)

theorem available_le : b.available capacity now ≤ capacity := by
  rw [available_eq]
  exact min_le_right _ _

/-- A bucket shows at once what a token that it was asked for has cost. -/
theorem available_take :
    (b.take capacity now).2.available capacity now =
      b.available capacity now - if 1 ≤ b.available capacity now then 1 else 0 := by
  have hle : b.available capacity now ≤ capacity := b.available_le capacity
  have hsub : b.available capacity now - (if 1 ≤ b.available capacity now then 1 else 0) ≤
      b.available capacity now := by
    split_ifs <;> linarith
  rw [take_eq, available_eq, minutes_of_ge (le_max_right _ _), mul_zero, add_zero]
  exact min_eq_left (hsub.trans hle)

end Bucket

/-! ## One family of buckets -/

namespace Scope

variable (s : Scope ℚ) (identifier : String)

theorem available_bucketOf :
    (s.bucketOf identifier now).available s.capacity now = s.remaining identifier now := by
  unfold bucketOf remaining
  cases s.buckets.find? identifier with
  | none => exact Bucket.available_full s.capacity now
  | some b => rfl

theorem remaining_le (now : Moment) : s.remaining identifier now ≤ s.capacity := by
  rw [← available_bucketOf]
  exact Bucket.available_le _ _

/-- A token is given exactly if a whole one is read. -/
theorem take_fst_eq (now : Moment) :
    (s.take identifier now).1 = decide (1 ≤ s.remaining identifier now) := by
  rw [take_fst, Bucket.take_eq, available_bucketOf]

theorem remaining_take_self (now : Moment) :
    (s.take identifier now).2.remaining identifier now =
      s.remaining identifier now - if 1 ≤ s.remaining identifier now then 1 else 0 := by
  have hfind : (s.take identifier now).2.buckets.find? identifier =
      some ((s.bucketOf identifier now).take s.capacity now).2 := by
    rw [find?_take, if_pos rfl]
  rw [remaining, hfind, ← available_bucketOf, ← Bucket.available_take]
  rfl

/-- Whoever is not asked reads what he read before, at any moment. -/
theorem remaining_take_of_ne {j : String} (hj : j ≠ identifier) :
    (s.take identifier now).2.remaining j t = s.remaining j t := by
  unfold remaining
  rw [find?_take, if_neg hj]
  rfl

/-- No bucket owes tokens. -/
def Solvent : Prop :=
  ∀ identifier b, s.buckets.find? identifier = some b → 0 ≤ b.tokens

variable {s}

theorem Solvent.bucketOf_nonneg (h : s.Solvent) (now : Moment) :
    0 ≤ (s.bucketOf identifier now).tokens := by
  unfold bucketOf
  cases hfind : s.buckets.find? identifier with
  | none => exact Nat.cast_nonneg s.capacity
  | some b => exact h identifier b hfind

theorem Solvent.remaining_nonneg (h : s.Solvent) (now : Moment) :
    0 ≤ s.remaining identifier now := by
  rw [← available_bucketOf]
  exact Bucket.available_nonneg _ _ _ (h.bucketOf_nonneg identifier now)

/-- Every use leaves a family solvent, at whatever moment. -/
theorem Solvent.apply (h : s.Solvent) (window : ℕ) (now : Moment) (u : Use) :
    (s.apply window now u).Solvent := by
  cases u with
  | take j =>
    intro identifier b hb
    rw [Scope.apply, find?_take] at hb
    split_ifs at hb with hj
    · rw [← Option.some.inj hb]
      exact Bucket.take_nonneg _ _ _ (h.bucketOf_nonneg j now)
    · exact h identifier b hb
  | reconfigure limit => exact h
  | evictIdle =>
    intro identifier b hb
    rw [Scope.apply, find?_evictIdle, Option.filter_eq_some_iff] at hb
    exact h identifier b hb.1

end Scope

/-! ## Both families -/

namespace Controller

variable {c : Controller ℚ} {steps : List (Moment × Action)}

theorem Follows.solvent_step {family : Controller ℚ → Scope ℚ}
    {use : Record ℚ → Option (Moment × Use)} {granted : Record ℚ → Option String}
    (h : Follows family use granted) (hc : (family c).Solvent) (now : Moment) (a : Action) :
    (family (c.step now a).2).Solvent := by
  have hstep := h c now a
  cases hu : use ⟨now, a, (c.step now a).1⟩ with
  | none =>
    simp only [hu] at hstep
    rw [hstep.1]
    exact hc
  | some u =>
    simp only [hu] at hstep
    rw [hstep.2.1]
    exact hc.apply _ _ _

theorem Follows.solvent_after {family : Controller ℚ → Scope ℚ}
    {use : Record ℚ → Option (Moment × Use)} {granted : Record ℚ → Option String}
    (h : Follows family use granted) (hc : (family c).Solvent) :
    (family (c.after steps)).Solvent := by
  induction steps generalizing c with
  | nil => exact hc
  | cons s r ih => exact ih (h.solvent_step hc s.1 s.2)

/-- No bucket owes tokens after any run, whatever the clock does. -/
theorem solvent_after (addressLimit apiKeyLimit window : ℕ) (steps : List (Moment × Action)) :
    let c := ({ new addressLimit apiKeyLimit with evictionWindow := window } :
      Controller ℚ).after steps
    c.address.Solvent ∧ c.apiKey.Solvent := by
  have hnew : ∀ limit, (Scope.new limit : Scope ℚ).Solvent := by
    intro limit identifier b hb
    cases hb
  exact ⟨follows_address.solvent_after (hnew addressLimit),
    follows_apiKey.solvent_after (hnew apiKeyLimit)⟩

end Controller

/-! ## Readings and checks -/

namespace Status

variable (s : Status ℚ) (address key : String)

/-- The decision that a reading announces: a token of the address is needed, then one of the key. -/
def decision : Outcome :=
  if 1 ≤ s.addressRemaining then
    if 1 ≤ s.apiKeyRemaining then .allowed
    else .exceeded .apiKey key s.apiKeyMaximum
  else .exceeded .address address s.addressMaximum

/-- The reading at the same moment after a decision: both values are lower by one token, only that
of the address, or neither. -/
def charged : Outcome → Status ℚ
  | .allowed => { s with
      addressRemaining := s.addressRemaining - 1, apiKeyRemaining := s.apiKeyRemaining - 1 }
  | .exceeded .apiKey _ _ => { s with addressRemaining := s.addressRemaining - 1 }
  | .exceeded .address _ _ => s

/-- The decisions about several requests of one pair at one moment: the pair has `a` and `b` whole
tokens, so the first `min a b` of them are admitted, the others of the first `a` are over the limit
of the key, and the rest is over that of the address. -/
def decisions (n : ℕ) : List Outcome :=
  let a := ⌊s.addressRemaining⌋₊
  let b := ⌊s.apiKeyRemaining⌋₊
  List.replicate (min n (min a b)) .allowed ++
    List.replicate (min n a - min n (min a b)) (.exceeded .apiKey key s.apiKeyMaximum) ++
    List.replicate (n - min n a) (.exceeded .address address s.addressMaximum)

/-- One more request is decided as the reading tells, and the others as the next reading does. -/
theorem decisions_succ (n : ℕ) :
    s.decisions address key (n + 1) =
      s.decision address key :: (s.charged (s.decision address key)).decisions address key n := by
  by_cases ha : 1 ≤ s.addressRemaining
  · obtain ⟨a, ha'⟩ : ∃ a, ⌊s.addressRemaining⌋₊ = a + 1 :=
      Nat.exists_eq_succ_of_ne_zero (Nat.floor_pos.2 ha).ne'
    have hsub : ⌊s.addressRemaining - 1⌋₊ = a := by
      rw [Nat.floor_sub_one, ha', Nat.add_sub_cancel]
    by_cases hb : 1 ≤ s.apiKeyRemaining
    · obtain ⟨b, hb'⟩ : ∃ b, ⌊s.apiKeyRemaining⌋₊ = b + 1 :=
        Nat.exists_eq_succ_of_ne_zero (Nat.floor_pos.2 hb).ne'
      have hsub' : ⌊s.apiKeyRemaining - 1⌋₊ = b := by
        rw [Nat.floor_sub_one, hb', Nat.add_sub_cancel]
      have hmin : min (n + 1) (min (a + 1) (b + 1)) = min n (min a b) + 1 := by omega
      have hkey : min (n + 1) (a + 1) - (min n (min a b) + 1) = min n a - min n (min a b) := by
        omega
      have haddress : n + 1 - min (n + 1) (a + 1) = n - min n a := by omega
      simp only [decision, if_pos ha, if_pos hb, charged, decisions, ha', hb', hsub, hsub', hmin,
        hkey, haddress, List.replicate_succ, List.cons_append]
    · have hb' : ⌊s.apiKeyRemaining⌋₊ = 0 := Nat.floor_eq_zero.2 (not_le.1 hb)
      have hkey : min (n + 1) (a + 1) - 0 = min n a - 0 + 1 := by omega
      have haddress : n + 1 - min (n + 1) (a + 1) = n - min n a := by omega
      simp only [decision, if_pos ha, if_neg hb, charged, decisions, ha', hb', hsub, hkey,
        haddress, Nat.min_zero, List.replicate_zero, List.nil_append, List.replicate_succ,
        List.cons_append]
  · have ha' : ⌊s.addressRemaining⌋₊ = 0 := Nat.floor_eq_zero.2 (not_le.1 ha)
    simp only [decision, if_neg ha, charged, decisions, ha', Nat.min_zero, Nat.zero_min,
      Nat.sub_zero, List.replicate_zero, List.nil_append, List.replicate_succ]

end Status

namespace Controller

variable (c : Controller ℚ) (address key : String) (now : Moment)

/-- A check decides what the reading at the same moment announces. -/
theorem check_fst :
    (c.check address key now).1 = (c.status address key now).decision address key := by
  rw [check_eq]
  simp only [Scope.take_fst_eq, decide_eq_true_eq]
  unfold Status.decision status
  split_ifs <;> rfl

/-- The reading after a check shows what it has cost. -/
theorem status_check :
    (c.check address key now).2.status address key now =
      (c.status address key now).charged (c.check address key now).1 := by
  have ha := c.address.remaining_take_self address now
  have hk := c.apiKey.remaining_take_self key now
  have hca := c.address.capacity_take address now
  have hck := c.apiKey.capacity_take key now
  rw [check_eq]
  simp only [Scope.take_fst_eq, decide_eq_true_eq]
  split_ifs with h1 h2
  · rw [if_pos h1] at ha
    rw [if_pos h2] at hk
    simp only [status, ha, hk, hca, hck, Status.charged]
  · rw [if_pos h1] at ha
    rw [if_neg h2, sub_zero] at hk
    simp only [status, ha, hk, hca, hck, Status.charged]
  · rw [if_neg h1, sub_zero] at ha
    simp only [status, ha, hca, Status.charged]

/-- A check changes no reading of another address, at whatever moment. -/
theorem addressRemaining_check {other : String} (h : other ≠ address) (k : String) (t : Moment) :
    ((c.check address key now).2.status other k t).addressRemaining =
      (c.status other k t).addressRemaining := by
  have hother : (c.address.take address now).2.remaining other t = c.address.remaining other t :=
    c.address.remaining_take_of_ne address h
  rw [check_eq]
  split_ifs <;> exact hother

/-- A check changes no reading of another key, at whatever moment. -/
theorem apiKeyRemaining_check {other : String} (h : other ≠ key) (x : String) (t : Moment) :
    ((c.check address key now).2.status x other t).apiKeyRemaining =
      (c.status x other t).apiKeyRemaining := by
  have hother : (c.apiKey.take key now).2.remaining other t = c.apiKey.remaining other t :=
    c.apiKey.remaining_take_of_ne key h
  rw [check_eq]
  split_ifs
  · exact hother
  · exact hother
  · rfl

/-- The checks of one pair at one moment are decided as the reading before them tells. -/
theorem outcomes_replicate (n : ℕ) :
    (c.trace (List.replicate n (now, .check address key))).map (·.answer) =
      ((c.status address key now).decisions address key n).map .outcome := by
  induction n generalizing c with
  | zero => simp [trace, Status.decisions]
  | succ n ih =>
    have hrest := ih (c.check address key now).2
    rw [status_check, check_fst] at hrest
    rw [List.replicate_succ, trace, List.map_cons, Status.decisions_succ, List.map_cons, ← hrest,
      ← check_fst]
    rfl

/-- **Checks do what readings announce.** After any run, whatever the clock does, take the reading
of an address and a key at any moment.

* Both values are between zero and the maximum.
* A check at that moment decides as the reading announces, and the next reading is lower by exactly
  the tokens that the decision costs.
* All other identifiers are read as before.
* Any number of checks at that moment are decided in the order that the reading tells. -/
theorem check_as_read (addressLimit apiKeyLimit window : ℕ) (steps : List (Moment × Action))
    (address key : String) (now : Moment) :
    let c := ({ new addressLimit apiKeyLimit with evictionWindow := window } :
      Controller ℚ).after steps
    let s := c.status address key now
    let r := c.check address key now
    (0 ≤ s.addressRemaining ∧ s.addressRemaining ≤ s.addressMaximum) ∧
    (0 ≤ s.apiKeyRemaining ∧ s.apiKeyRemaining ≤ s.apiKeyMaximum) ∧
    (s.addressMaximum = c.address.capacity ∧ s.apiKeyMaximum = c.apiKey.capacity) ∧
    r.1 = s.decision address key ∧
    r.2.status address key now = s.charged r.1 ∧
    (∀ other ≠ address, ∀ k t,
      (r.2.status other k t).addressRemaining = (c.status other k t).addressRemaining) ∧
    (∀ other ≠ key, ∀ x t,
      (r.2.status x other t).apiKeyRemaining = (c.status x other t).apiKeyRemaining) ∧
    ∀ n, (c.trace (List.replicate n (now, .check address key))).map (·.answer) =
      (s.decisions address key n).map .outcome := by
  intro c s r
  obtain ⟨haddress, hkey⟩ := solvent_after addressLimit apiKeyLimit window steps
  refine ⟨⟨haddress.remaining_nonneg address now, c.address.remaining_le address now⟩,
    ⟨hkey.remaining_nonneg key now, c.apiKey.remaining_le key now⟩, ⟨rfl, rfl⟩,
    c.check_fst address key now, c.status_check address key now, ?_, ?_, ?_⟩
  · intro other hother k t
    exact c.addressRemaining_check address key now hother k t
  · intro other hother x t
    exact c.apiKeyRemaining_check address key now hother x t
  · intro n
    exact c.outcomes_replicate address key now n

/-- Four checks a minute before the bucket was refilled, when the limit is below what it held. -/
theorem check_as_read_backwards :
    let c := ({ new 3 2 with evictionWindow := defaultEvictionWindow } : Controller ℚ).after
      [(60000000000, .check "x" "k"), (60000000000, .reconfigure 2 2)]
    ("y" ≠ "x" ∧ ((c.check "x" "k" 0).2.status "y" "k" 0).addressRemaining =
      (c.status "y" "k" 0).addressRemaining) ∧
    ("l" ≠ "k" ∧ ((c.check "x" "k" 0).2.status "x" "l" 0).apiKeyRemaining =
      (c.status "x" "l" 0).apiKeyRemaining) ∧
    (c.trace (List.replicate 4 (0, .check "x" "k"))).map (·.answer) =
      [.outcome .allowed, .outcome (.exceeded .apiKey "k" 2), .outcome (.exceeded .address "x" 2),
        .outcome (.exceeded .address "x" 2)] := by
  intro c
  obtain ⟨-, -, -, -, -, haddress, hkey, houtcomes⟩ := check_as_read 3 2 defaultEvictionWindow
    [(60000000000, .check "x" "k"), (60000000000, .reconfigure 2 2)] "x" "k" 0
  have hdecisions : (c.status "x" "k" 0).decisions "x" "k" 4 =
      [.allowed, .exceeded .apiKey "k" 2, .exceeded .address "x" 2, .exceeded .address "x" 2] := by
    decide +kernel
  refine ⟨⟨by decide, haddress "y" (by decide) "k" 0⟩, ⟨by decide, hkey "l" (by decide) "x" 0⟩, ?_⟩
  rw [houtcomes, hdecisions]
  rfl

end Controller

end Footfall.Admission
