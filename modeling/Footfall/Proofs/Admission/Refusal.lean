import Footfall.Proofs.Admission.Refill

/-!
# Refused requests cost nothing

A request that its address refuses is answered without a token of the key, and all it does to the
bucket of the address is to refill it. So two families of buckets of which one was asked in vain are
read alike from then on (`Scope.ReadAlike`), though the buckets differ and are dropped at different
times.

Each action is answered alike by two controllers whose addresses are read alike and whose keys are
the same, and keeps them so (`Controller.ReadAlike.step`); so does a check on one side that its
address refuses (`Controller.ReadAlike.step_of_refused`). By induction, a run is observed to be the
same without any of the checks that were refused (`Controller.ReadAlike.run`). This needs that the
limits stay: a bucket refills at the rate in force when it is looked at, so a change of the limit
tells apart when it was last refilled.
-/

namespace Footfall.Admission

variable {now t : Moment}

/-! ## Families that are read alike -/

/-- Two families that give the same readings from now on. -/
structure Scope.ReadAlike (now : Moment) (s u : Scope ℚ) : Prop where
  left : s.Settled now
  right : u.Settled now
  capacity_eq : s.capacity = u.capacity
  remaining_eq : ∀ t, now ≤ t → ∀ identifier, s.remaining identifier t = u.remaining identifier t

namespace Scope.ReadAlike

variable {s u : Scope ℚ} {window : ℕ}

theorem refl (h : s.Settled now) : s.ReadAlike now s :=
  ⟨h, h, rfl, fun _ _ _ => rfl⟩

theorem mono (h : s.ReadAlike now u) (ht : now ≤ t) : s.ReadAlike t u :=
  ⟨h.left.mono ht, h.right.mono ht, h.capacity_eq, fun t' ht' => h.remaining_eq t' (ht.trans ht')⟩

theorem take_fst (h : s.ReadAlike now u) (identifier : String) :
    (s.take identifier now).1 = (u.take identifier now).1 := by
  rw [take_fst_eq, take_fst_eq, h.remaining_eq now (le_refl now)]

/-- Asking both for a token keeps them alike. -/
theorem take (h : s.ReadAlike now u) (identifier : String) :
    (s.take identifier now).2.ReadAlike now (u.take identifier now).2 := by
  refine ⟨h.left.apply 0 (.take identifier), h.right.apply 0 (.take identifier), h.capacity_eq,
    fun t ht j => ?_⟩
  by_cases hj : j = identifier
  · subst hj
    rw [h.left.remaining_take ht, h.right.remaining_take ht, h.remaining_eq now (le_refl now),
      h.capacity_eq]
  · rw [s.remaining_take_of_ne identifier hj, u.remaining_take_of_ne identifier hj,
      h.remaining_eq t ht]

/-- Asking one of them in vain keeps them alike. -/
theorem take_left (h : s.ReadAlike now u) {identifier : String}
    (hrefused : (s.take identifier now).1 = false) :
    (s.take identifier now).2.ReadAlike now u := by
  refine ⟨h.left.apply 0 (.take identifier), h.right, h.capacity_eq, fun t ht j => ?_⟩
  rw [h.left.remaining_take_of_refused ht hrefused, h.remaining_eq t ht]

/-- Dropping idle buckets keeps them alike, even if other buckets are dropped from the one than from
the other. -/
theorem evictIdle (h : s.ReadAlike now u) (hwindow : 60000000000 ≤ window) :
    (s.evictIdle now window).2.ReadAlike now (u.evictIdle now window).2 := by
  refine ⟨h.left.apply window .evictIdle, h.right.apply window .evictIdle, h.capacity_eq,
    fun t ht j => ?_⟩
  rw [h.left.remaining_evictIdle hwindow ht, h.right.remaining_evictIdle hwindow ht,
    h.remaining_eq t ht]

end Scope.ReadAlike

/-! ## Runs without refused checks -/

/-- Is this a check that its address refused? -/
def Record.isRefused {α : Type} (r : Record α) : Bool :=
  match r.action, r.answer with
  | .check _ _, .outcome (.exceeded .address _ _) => true
  | _, _ => false

/-- The moment and the action of a record, to be done again. -/
def Record.step {α : Type} (r : Record α) : Moment × Action := (r.moment, r.action)

/-- The record of a run without some of the checks that their address refused. -/
inductive WithoutRefused {α : Type} : List (Record α) → List (Record α) → Prop where
  | nil : WithoutRefused [] []
  | keep (r : Record α) {kept records : List (Record α)} (h : WithoutRefused kept records) :
      WithoutRefused (r :: kept) (r :: records)
  | drop {r : Record α} (hrefused : r.isRefused = true) {kept records : List (Record α)}
      (h : WithoutRefused kept records) : WithoutRefused kept (r :: records)

theorem withoutRefused_nil {α : Type} {records : List (Record α)}
    (h : ∀ r ∈ records, r.isRefused = true) : WithoutRefused [] records := by
  induction records with
  | nil => exact .nil
  | cons r records ih => exact .drop (h r (by simp)) (ih fun q hq => h q (by simp [hq]))

namespace Controller

/-- Two controllers with the same keys whose addresses are read alike from now on. -/
structure ReadAlike (now : Moment) (c d : Controller ℚ) : Prop where
  address : c.address.ReadAlike now d.address
  apiKey_eq : c.apiKey = d.apiKey
  evictionWindow_eq : c.evictionWindow = d.evictionWindow

namespace ReadAlike

variable {c d : Controller ℚ}

theorem refl (h : c.Settled now) : c.ReadAlike now c := ⟨.refl h.address, rfl, rfl⟩

theorem mono (h : c.ReadAlike now d) (ht : now ≤ t) : c.ReadAlike t d :=
  { h with address := h.address.mono ht }

theorem check (h : c.ReadAlike now d) (address key : String) :
    (c.check address key now).1 = (d.check address key now).1 ∧
      (c.check address key now).2.ReadAlike now (d.check address key now).2 := by
  have hafter := h.address.take address
  rw [check_eq, check_eq, ← h.address.take_fst, ← h.address.capacity_eq, ← h.apiKey_eq]
  split_ifs
  · exact ⟨rfl, hafter, rfl, h.evictionWindow_eq⟩
  · exact ⟨rfl, hafter, rfl, h.evictionWindow_eq⟩
  · exact ⟨rfl, hafter, rfl, h.evictionWindow_eq⟩

theorem status_eq (h : c.ReadAlike now d) (address key : String) :
    c.status address key now = d.status address key now := by
  rw [status, status, h.address.remaining_eq now (le_refl now), h.address.capacity_eq, h.apiKey_eq]

theorem evictIdle (h : c.ReadAlike now d) (hwindow : 60000000000 ≤ c.evictionWindow) :
    (c.evictIdle now).2.ReadAlike now (d.evictIdle now).2 := by
  have haddress := h.address.evictIdle hwindow
  refine ⟨?_, ?_, h.evictionWindow_eq⟩
  · rwa [Controller.evictIdle, Controller.evictIdle, ← h.evictionWindow_eq]
  · rw [Controller.evictIdle, Controller.evictIdle, ← h.evictionWindow_eq, ← h.apiKey_eq]

/-- Every action but an eviction is answered alike, and every action that leaves the limits keeps
two controllers alike. -/
theorem step (h : c.ReadAlike now d) (hwindow : 60000000000 ≤ c.evictionWindow) {a : Action}
    (ha : ∀ m n, a ≠ .reconfigure m n) :
    (a ≠ .evictIdle → (c.step now a).1 = (d.step now a).1) ∧
      (c.step now a).2.ReadAlike now (d.step now a).2 := by
  cases a with
  | check address key =>
    obtain ⟨hanswer, hafter⟩ := h.check address key
    exact ⟨fun _ => congrArg Answer.outcome hanswer, hafter⟩
  | status address key => exact ⟨fun _ => congrArg Answer.status (h.status_eq address key), h⟩
  | reconfigure m n => exact absurd rfl (ha m n)
  | evictIdle => exact ⟨fun hne => absurd rfl hne, h.evictIdle hwindow⟩

/-- A check that its address refuses keeps two controllers alike if only the first makes it. -/
theorem step_of_refused (h : c.ReadAlike now d) {a : Action}
    (hrefused : (⟨now, a, (c.step now a).1⟩ : Record ℚ).isRefused = true) :
    (c.step now a).2.ReadAlike now d := by
  cases a with
  | check address key =>
    simp only [Controller.step, check_eq] at hrefused ⊢
    by_cases htake : (c.address.take address now).1 = true
    · rw [if_pos htake] at hrefused
      split_ifs at hrefused <;> cases hrefused
    · rw [if_neg htake]
      exact { h with address := h.address.take_left (Bool.eq_false_iff.2 htake) }
  | status address key => cases hrefused
  | reconfigure m n => cases hrefused
  | evictIdle => cases hrefused

/-- Two controllers that are alike are observed to do the same if the second does not make some of
the checks that the first refuses, and are alike afterwards. -/
theorem run (h : c.ReadAlike now d) {steps : List (Moment × Action)} {kept : List (Record ℚ)}
    (hkept : WithoutRefused kept (c.trace steps)) (hwindow : 60000000000 ≤ c.evictionWindow)
    (hfixed : ∀ s ∈ steps, ∀ m n, s.2 ≠ .reconfigure m n) (hnow : ∀ s ∈ steps, now ≤ s.1)
    (hsorted : steps.Pairwise fun s t => s.1 ≤ t.1) :
    observed (d.trace (kept.map Record.step)) = observed kept ∧
      ∀ t, now ≤ t → (∀ s ∈ steps, s.1 ≤ t) →
        (c.after steps).ReadAlike t (d.after (kept.map Record.step)) := by
  induction steps generalizing c d now kept with
  | nil =>
    cases hkept
    exact ⟨rfl, fun t ht _ => h.mono ht⟩
  | cons s r ih =>
    obtain ⟨m, a⟩ := s
    obtain ⟨hlater, hsorted⟩ := List.pairwise_cons.1 hsorted
    obtain ⟨hm, -⟩ := List.forall_mem_cons.1 hnow
    obtain ⟨ha, hfixed⟩ := List.forall_mem_cons.1 hfixed
    have hwindow' : 60000000000 ≤ (c.step m a).2.evictionWindow := by rwa [evictionWindow_step]
    have h := h.mono hm
    cases hkept with
    | keep _ hkept =>
      obtain ⟨hanswer, hafter⟩ := h.step hwindow ha
      obtain ⟨htrace, hend⟩ := ih hafter hkept hwindow' hfixed hlater hsorted
      refine ⟨observed_cons_congr rfl rfl (fun hne => (hanswer hne).symm) htrace, ?_⟩
      intro t _ hpast
      obtain ⟨hmt, hpast⟩ := List.forall_mem_cons.1 hpast
      exact hend t hmt hpast
    | drop hrefused hkept =>
      have hafter := h.step_of_refused hrefused
      obtain ⟨htrace, hend⟩ := ih hafter hkept hwindow' hfixed hlater hsorted
      refine ⟨htrace, fun t _ hpast => ?_⟩
      obtain ⟨hmt, hpast⟩ := List.forall_mem_cons.1 hpast
      exact hend t hmt hpast

end ReadAlike

/-- **Refused requests cost nothing.** Take any run at moments that do not go back, under limits
that stay, in which buckets are dropped only after a minute or more without use.

* If any of the checks that their address refused are left out, all other checks and all readings
  of the buckets are answered as before.
* So a client that goes on asking while it is refused is admitted again, or not, at the same moments
  as one that waits. -/
theorem observed_trace_eq_of_withoutRefused {addressLimit apiKeyLimit window : ℕ}
    {steps : List (Moment × Action)} (hwindow : 60000000000 ≤ window)
    (hfixed : ∀ s ∈ steps, ∀ m n, s.2 ≠ .reconfigure m n)
    (hsorted : steps.Pairwise fun s t => s.1 ≤ t.1) :
    let c := ({ new addressLimit apiKeyLimit with evictionWindow := window } : Controller ℚ)
    (∀ kept, WithoutRefused kept (c.trace steps) →
      observed (c.trace (kept.map Record.step)) = observed kept) ∧
    ∀ before hammering, steps = before ++ hammering →
      (∀ r ∈ (c.after before).trace hammering, r.isRefused = true) →
      ∀ t, (∀ s ∈ steps, s.1 ≤ t) → ∀ address key,
        ((c.after steps).check address key t).1 = ((c.after before).check address key t).1 := by
  intro c
  constructor
  · intro kept hkept
    obtain ⟨start, -, hstart⟩ := exists_start steps 0
    have hstarted : c.Settled start := settled_new start addressLimit apiKeyLimit window
    exact ((ReadAlike.refl hstarted).run hkept hwindow hfixed hstart hsorted).1
  · rintro before hammering rfl hrefused t hpast address key
    obtain ⟨hbefore, hhammering, hlater⟩ := List.pairwise_append.1 hsorted
    rw [after_append]
    cases hammering with
    | nil => rfl
    | cons s r =>
      have hsettled : (c.after before).Settled s.1 :=
        settled_after addressLimit apiKeyLimit window hbefore fun q hq => hlater q hq s (by simp)
      have halike := ((ReadAlike.refl hsettled).run (withoutRefused_nil hrefused)
        (by rwa [evictionWindow_after]) (fun q hq => hfixed q (List.mem_append_right _ hq))
        (List.forall_mem_cons.2 ⟨le_refl _, (List.pairwise_cons.1 hhammering).1⟩) hhammering).2 t
        (hpast s (by simp)) fun q hq => hpast q (List.mem_append_right _ hq)
      exact (halike.check address key).1

/-- A check at 20 s is refused and puts off the end of the bucket: without it, the bucket is dropped
at 60 s. -/
theorem observed_trace_eq_without_hurried_check :
    let steps : List (Moment × Action) :=
      [(0, .check "x" "k"), (0, .check "x" "k"), (20000000000, .check "x" "k"),
        (60000000000, .evictIdle), (60000000000, .status "x" "k"), (60000000000, .check "x" "k")]
    let c := ({ new 2 2 with evictionWindow := 60000000000 } : Controller ℚ)
    let kept := (c.trace steps).eraseIdx 2
    (WithoutRefused kept (c.trace steps) ∧
      observed (c.trace (kept.map Record.step)) = observed kept) ∧
      ((c.after (steps.take 3)).check "x" "k" 30000000000).1 =
        ((c.after (steps.take 2)).check "x" "k" 30000000000).1 := by
  intro steps c kept
  constructor
  · have hfixed : ∀ s ∈ steps, ∀ m n, s.2 ≠ .reconfigure m n := by simp [steps]
    have hkept : WithoutRefused kept (c.trace steps) :=
      .keep _ (.keep _ (.drop (by decide +kernel) (.keep _ (.keep _ (.keep _ .nil)))))
    exact ⟨hkept, (observed_trace_eq_of_withoutRefused (by decide) hfixed (by decide)).1 kept hkept⟩
  · have hfixed : ∀ s ∈ steps.take 3, ∀ m n, s.2 ≠ .reconfigure m n := by simp [steps]
    exact (observed_trace_eq_of_withoutRefused (by decide) hfixed (by decide)).2 (steps.take 2)
      [(20000000000, .check "x" "k")] rfl (by decide +kernel) _ (by decide) "x" "k"

end Controller

end Footfall.Admission
