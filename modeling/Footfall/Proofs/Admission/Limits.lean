import Footfall.Proofs.Admission.Reading

/-!
# Changing the limits

A change of the limits writes no bucket. The tokens of the last refill stay, and the next refill
counts with the new limit, also for the time before the change. So what is read right after the
change is not in general what was read right before it, cut down to the new limit
(`Controller.reconfigure_moves_tokens`).

`Bucket.Carried` says what is read instead. A higher limit takes no tokens away and a lower one
gives none, but a higher one gives tokens for time that has passed, and a lower one takes tokens
that are not beyond it. A bucket keeps what it holds if it was refilled at that very moment, and
else only if a lower limit finds it full (`Bucket.available_eq_iff_of_raised`,
`Bucket.available_eq_iff_of_lowered`).
-/

namespace Footfall.Admission

variable {t : Moment} {m n : ℕ}

namespace Bucket

variable {b : Bucket ℚ}

theorem available_mono (b : Bucket ℚ) (t : Moment) (h : m ≤ n) :
    b.available m t ≤ b.available n t := by
  have hcast : (m : ℚ) ≤ n := by exact_mod_cast h
  have hminutes := minutes_nonneg b.lastRefill t
  rw [available_eq, available_eq]
  gcongr

/-- Once time has passed since the refill, a higher capacity shows. -/
theorem available_lt (ht : b.lastRefill < t) (h : m < n) :
    b.available m t < b.available n t := by
  have hcast : (m : ℚ) < n := by exact_mod_cast h
  have hminutes := minutes_pos ht
  rw [available_eq, available_eq]
  refine lt_min ((min_le_left _ _).trans_lt ?_) ((min_le_right _ _).trans_lt hcast)
  gcongr

/-- A bucket that was just refilled holds the tokens of the refill, up to the capacity. -/
theorem available_of_refilled (h : b.lastRefill = t) (capacity : ℕ) :
    b.available capacity t = min b.tokens capacity := by
  rw [available_eq, h, minutes_of_ge (le_refl t), mul_zero, add_zero]

/-- A bucket keeps its tokens under a higher limit if it was just refilled, unless it held back
some that were beyond the lower one. -/
theorem available_eq_iff_of_raised (ht : b.lastRefill ≤ t) (h : m < n) :
    b.available n t = min (b.available m t) n ↔ b.lastRefill = t ∧ b.tokens ≤ m := by
  have hcast : (m : ℚ) < n := by exact_mod_cast h
  have hle : b.available m t ≤ m := b.available_le m
  rw [min_eq_left (hle.trans hcast.le)]
  constructor
  · intro heq
    have hlast : b.lastRefill = t :=
      eq_of_le_of_not_lt ht fun hlt => absurd heq (available_lt hlt h).ne'
    refine ⟨hlast, le_of_not_gt fun htokens => ?_⟩
    rw [available_of_refilled hlast, available_of_refilled hlast, min_eq_right htokens.le] at heq
    exact absurd heq (lt_min htokens hcast).ne'
  · rintro ⟨hlast, htokens⟩
    rw [available_of_refilled hlast, available_of_refilled hlast, min_eq_left htokens,
      min_eq_left (htokens.trans hcast.le)]

/-- A bucket keeps its tokens under a lower limit, up to this limit, if it was just refilled or is
full nevertheless. -/
theorem available_eq_iff_of_lowered (ht : b.lastRefill ≤ t) (h : n < m) :
    b.available n t = min (b.available m t) n ↔ b.lastRefill = t ∨ b.available n t = n := by
  have hcast : (n : ℚ) < m := by exact_mod_cast h
  constructor
  · intro heq
    by_contra hnot
    obtain ⟨hlast, hfull⟩ := not_or.1 hnot
    have hlt : b.available n t < b.available m t := available_lt (lt_of_le_of_ne ht hlast) h
    have hlt' : b.available n t < n := lt_of_le_of_ne (b.available_le n) hfull
    exact absurd heq (lt_min hlt hlt').ne
  · rintro (hlast | hfull)
    · rw [available_of_refilled hlast, available_of_refilled hlast, min_assoc,
        min_eq_right hcast.le]
    · have hle : (n : ℚ) ≤ b.available m t := hfull ▸ b.available_mono t h.le
      rw [hfull, min_eq_right hle]

/-- What is read of a bucket at a moment before and after its limit changes from `m` to `n`. -/
structure Carried (b : Bucket ℚ) (t : Moment) (m n : ℕ) (before after : ℚ) : Prop where
  /-- The new limit counts for the whole time since the last refill. -/
  after_eq : after = min (b.tokens + n * minutes b.lastRefill t) n
  raised : m ≤ n → before ≤ after
  lowered : n ≤ m → after ≤ min before n
  kept_of_eq : m = n → after = min before n
  kept_iff_of_raised : m < n → (after = min before n ↔ b.lastRefill = t ∧ b.tokens ≤ m)
  kept_iff_of_lowered : n < m → (after = min before n ↔ b.lastRefill = t ∨ after = n)

theorem carried (ht : b.lastRefill ≤ t) (m n : ℕ) :
    b.Carried t m n (b.available m t) (b.available n t) where
  after_eq := b.available_eq n t
  raised h := b.available_mono t h
  lowered h := le_min (b.available_mono t h) (b.available_le n)
  kept_of_eq h := by rw [h, min_eq_left (b.available_le n)]
  kept_iff_of_raised h := available_eq_iff_of_raised ht h
  kept_iff_of_lowered h := available_eq_iff_of_lowered ht h

end Bucket

namespace Scope

theorem carried_reconfigure {s : Scope ℚ} {identifier : String} {b : Bucket ℚ}
    (hb : s.buckets.find? identifier = some b) (ht : b.lastRefill ≤ t) (limit : ℕ) :
    b.Carried t s.capacity (max limit 1) (s.remaining identifier t)
      ((s.reconfigure limit).remaining identifier t) := by
  have hbefore : s.remaining identifier t = b.available s.capacity t := by rw [remaining, hb]
  have hafter : (s.reconfigure limit).remaining identifier t = b.available (max limit 1) t := by
    rw [remaining, reconfigure, hb]
  rw [hbefore, hafter]
  exact Bucket.carried ht s.capacity (max limit 1)

end Scope

namespace Controller

/-- **What a change of the limits does to the tokens.** After any run, for every address and every
key that has a bucket and at every moment since its last refill, this is what is read right before
and right after the change. -/
theorem status_reconfigure (addressLimit apiKeyLimit window : ℕ) (steps : List (Moment × Action))
    (addressLimit' apiKeyLimit' : ℕ) (t : Moment) :
    let c := ({ new addressLimit apiKeyLimit with evictionWindow := window } :
      Controller ℚ).after steps
    let d := c.reconfigure addressLimit' apiKeyLimit'
    (∀ address b, c.address.buckets.find? address = some b → b.lastRefill ≤ t → ∀ key,
      b.Carried t c.address.capacity (max addressLimit' 1)
        (c.status address key t).addressRemaining (d.status address key t).addressRemaining) ∧
    ∀ key b, c.apiKey.buckets.find? key = some b → b.lastRefill ≤ t → ∀ address,
      b.Carried t c.apiKey.capacity (max apiKeyLimit' 1)
        (c.status address key t).apiKeyRemaining (d.status address key t).apiKeyRemaining := by
  intro c d
  constructor
  · intro address b hb ht key
    exact Scope.carried_reconfigure hb ht addressLimit'
  · intro key b hb ht address
    exact Scope.carried_reconfigure hb ht apiKeyLimit'

/-- Half a minute after two checks, the limit of the address goes up and that of the key down. -/
theorem status_reconfigure_half_minute :
    let c := ({ new 2 2 with evictionWindow := 600000000000 } : Controller ℚ).after
      [(0, .check "x" "k"), (0, .check "x" "k")]
    let d := c.reconfigure 4 1
    (∃ b, c.address.buckets.find? "x" = some b ∧
      b.Carried 30000000000 c.address.capacity 4 (c.status "x" "k" 30000000000).addressRemaining
        (d.status "x" "k" 30000000000).addressRemaining) ∧
    ∃ b, c.apiKey.buckets.find? "k" = some b ∧
      b.Carried 30000000000 c.apiKey.capacity 1 (c.status "x" "k" 30000000000).apiKeyRemaining
        (d.status "x" "k" 30000000000).apiKeyRemaining := by
  intro c d
  have haddress : (c.address.buckets.find? "x").map (·.lastRefill) = some 0 := by decide +kernel
  have hkey : (c.apiKey.buckets.find? "k").map (·.lastRefill) = some 0 := by decide +kernel
  obtain ⟨b, hb, hlast⟩ := Option.map_eq_some_iff.1 haddress
  obtain ⟨b', hb', hlast'⟩ := Option.map_eq_some_iff.1 hkey
  have hstatus := status_reconfigure 2 2 600000000000
    [(0, .check "x" "k"), (0, .check "x" "k")] 4 1 30000000000
  exact ⟨⟨b, hb, hstatus.1 "x" b hb (by rw [hlast]; decide) "k"⟩,
    b', hb', hstatus.2 "k" b' hb' (by rw [hlast']; decide) "x"⟩

/-- What is read after the same half minute: the change gives the address a token, and takes from
the key half of one that its new limit would let it keep. -/
theorem reconfigure_moves_tokens :
    let c := (new 2 2 : Controller ℚ).after [(0, .check "x" "k"), (0, .check "x" "k")]
    let before := c.status "x" "k" 30000000000
    let after := (c.reconfigure 4 1).status "x" "k" 30000000000
    (before.addressRemaining = 1 ∧ after.addressRemaining = 2 ∧
      after.addressRemaining ≠ min before.addressRemaining 4) ∧
    before.apiKeyRemaining = 1 ∧ after.apiKeyRemaining = 1 / 2 ∧
      after.apiKeyRemaining ≠ min before.apiKeyRemaining 1 := by
  decide +kernel

end Controller

end Footfall.Admission
