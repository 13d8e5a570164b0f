import Footfall.Admission.Controller
import Footfall.Proofs.Table

/-!
# Runs of the admission control

A run is a list of actions with their moments: checks of requests, readings of the buckets, changes
of the limits and evictions of idle buckets (`Action`). It leaves a record of every action with its
answer (`Controller.trace`) and a controller (`Controller.after`).

Either family of buckets sees a run as its own sequence of uses (`Use`): tokens asked for, changes
of its limit, evictions. The addresses are asked in every check, the keys only in those that their
address did not refuse (`Record.addressUse`, `Record.keyUse`). The uses decide what becomes of a
family (`Controller.Follows.family_after`), and the tokens that it gives out in their course
(`Scope.grants`) can be read off the record of the run (`Controller.Follows.grants_eq`), so that
what holds of one family holds of both.
-/

namespace Footfall.Admission

/-! ## One family of buckets -/

/-- A use of a family of buckets. -/
inductive Use where
  /-- A token of an identifier is asked for. -/
  | take (identifier : String)
  | reconfigure (limit : Nat)
  | evictIdle
  deriving DecidableEq, Repr

namespace Scope

variable {α : Type} [Scalar α]

@[simp] theorem capacity_take (s : Scope α) (identifier : String) (now : Moment) :
    (s.take identifier now).2.capacity = s.capacity := rfl

theorem take_fst (s : Scope α) (now : Moment) (j : String) :
    (s.take j now).1 = ((s.bucketOf j now).take s.capacity now).1 := rfl

theorem find?_take (s : Scope α) (now : Moment) (j identifier : String) :
    (s.take j now).2.buckets.find? identifier =
      if identifier = j then some ((s.bucketOf j now).take s.capacity now).2
      else s.buckets.find? identifier := by
  simp [take]

omit [Scalar α] in
theorem find?_evictIdle (s : Scope α) (now : Moment) (window : Nat) (identifier : String) :
    (s.evictIdle now window).2.buckets.find? identifier =
      (s.buckets.find? identifier).filter fun b => decide (elapsed b.lastRefill now < window) :=
  Table.find?_retain _ _ _

/-- The family after a use. -/
def apply (window : Nat) (s : Scope α) (now : Moment) : Use → Scope α
  | .take identifier => (s.take identifier now).2
  | .reconfigure limit => s.reconfigure limit
  | .evictIdle => (s.evictIdle now window).2

/-- The identifier that is given a token by a use, if it is given one. -/
def granted? (s : Scope α) (now : Moment) : Use → Option String
  | .take identifier => if (s.take identifier now).1 then some identifier else none
  | .reconfigure _ => none
  | .evictIdle => none

/-- The family after a sequence of uses. -/
def run (window : Nat) (s : Scope α) (uses : List (Moment × Use)) : Scope α :=
  uses.foldl (fun s u => s.apply window u.1 u.2) s

/-- The tokens given out in a sequence of uses, with their moments. -/
def grants (window : Nat) (s : Scope α) : List (Moment × Use) → List (Moment × String)
  | [] => []
  | (now, u) :: r =>
    ((s.granted? now u).map fun identifier => (now, identifier)).toList ++
      grants window (s.apply window now u) r

end Scope

/-! ## Both families -/

/-- An action on the admission control. -/
inductive Action where
  | check (address key : String)
  | status (address key : String)
  | reconfigure (addressLimit apiKeyLimit : Nat)
  | evictIdle
  deriving DecidableEq, Repr

/-- The answer to an action. -/
inductive Answer (α : Type) where
  | outcome (o : Outcome)
  | status (s : Status α)
  | reconfigured
  /-- So many buckets were dropped. -/
  | evicted (n : Nat)

/-- An action, its moment and its answer. -/
structure Record (α : Type) where
  moment : Moment
  action : Action
  answer : Answer α

namespace Record

variable {α : Type}

/-- What an action is to the buckets of the addresses. -/
def addressUse (r : Record α) : Option (Moment × Use) :=
  match r.action with
  | .check address _ => some (r.moment, .take address)
  | .status _ _ => none
  | .reconfigure addressLimit _ => some (r.moment, .reconfigure addressLimit)
  | .evictIdle => some (r.moment, .evictIdle)

/-- What an action is to the buckets of the keys. A check that its address refuses does not reach
them. -/
def keyUse (r : Record α) : Option (Moment × Use) :=
  match r.action, r.answer with
  | .check _ _, .outcome (.exceeded .address _ _) => none
  | .check _ key, _ => some (r.moment, .take key)
  | .status _ _, _ => none
  | .reconfigure _ apiKeyLimit, _ => some (r.moment, .reconfigure apiKeyLimit)
  | .evictIdle, _ => some (r.moment, .evictIdle)

/-- The address whose check this is, if it is one that the address does not refuse. -/
def passed? (r : Record α) : Option String :=
  match r.action, r.answer with
  | .check _ _, .outcome (.exceeded .address _ _) => none
  | .check address _, .outcome _ => some address
  | _, _ => none

/-- The key whose check this is, if it is one that ends in admission. -/
def admitted? (r : Record α) : Option String :=
  match r.action, r.answer with
  | .check _ key, .outcome .allowed => some key
  | _, _ => none

end Record

namespace Controller

variable {α : Type} [Scalar α]

/-- The answer to an action, and the controller after it. -/
def step (c : Controller α) (now : Moment) : Action → Answer α × Controller α
  | .check address key =>
    let (o, c) := c.check address key now
    (.outcome o, c)
  | .status address key => (.status (c.status address key now), c)
  | .reconfigure addressLimit apiKeyLimit => (.reconfigured, c.reconfigure addressLimit apiKeyLimit)
  | .evictIdle =>
    let (n, c) := c.evictIdle now
    (.evicted n, c)

/-- The record of a run. -/
def trace (c : Controller α) : List (Moment × Action) → List (Record α)
  | [] => []
  | (now, a) :: r => ⟨now, a, (c.step now a).1⟩ :: trace (c.step now a).2 r

/-- The controller after a run. -/
def after (c : Controller α) : List (Moment × Action) → Controller α
  | [] => c
  | (now, a) :: r => after (c.step now a).2 r

theorem check_eq (c : Controller α) (address key : String) (now : Moment) :
    c.check address key now =
      if (c.address.take address now).1 then
        if (c.apiKey.take key now).1 then
          (.allowed, { c with
            address := (c.address.take address now).2, apiKey := (c.apiKey.take key now).2 })
        else
          (.exceeded .apiKey key c.apiKey.capacity, { c with
            address := (c.address.take address now).2, apiKey := (c.apiKey.take key now).2 })
      else
        (.exceeded .address address c.address.capacity,
          { c with address := (c.address.take address now).2 }) := by
  have hcapacity := c.address.capacity_take address now
  have hcapacity' := c.apiKey.capacity_take key now
  rw [check, takeAddress]
  rcases ha : c.address.take address now with ⟨_ | _, s⟩
  · rw [ha] at hcapacity
    simpa using hcapacity
  · rcases hk : c.apiKey.take key now with ⟨_ | _, s'⟩
    · rw [hk] at hcapacity'
      simpa [takeKey, hk] using hcapacity'
    · simp [takeKey, hk]

/-- Deciding about a request does not change the limits. -/
theorem capacity_check (c : Controller α) (address key : String) (now : Moment) :
    (c.check address key now).2.address.capacity = c.address.capacity ∧
      (c.check address key now).2.apiKey.capacity = c.apiKey.capacity := by
  rw [check_eq]
  split_ifs <;> exact ⟨rfl, rfl⟩

@[simp] theorem evictionWindow_step (c : Controller α) (now : Moment) (a : Action) :
    (c.step now a).2.evictionWindow = c.evictionWindow := by
  cases a with
  | check address key =>
    simp only [step, check_eq]
    split_ifs <;> rfl
  | status address key => rfl
  | reconfigure addressLimit apiKeyLimit => rfl
  | evictIdle => rfl

@[simp] theorem evictionWindow_after (c : Controller α) (steps : List (Moment × Action)) :
    (c.after steps).evictionWindow = c.evictionWindow := by
  induction steps generalizing c with
  | nil => rfl
  | cons s r ih => rw [after, ih, evictionWindow_step]

theorem after_append (c : Controller α) (before rest : List (Moment × Action)) :
    c.after (before ++ rest) = (c.after before).after rest := by
  induction before generalizing c with
  | nil => rfl
  | cons s r ih => exact ih (c.step s.1 s.2).2

/-- A family of buckets of a controller follows its uses: it changes and gives out tokens as they
say, and an action that is no use of it leaves it as it is. -/
def Follows (family : Controller α → Scope α) (use : Record α → Option (Moment × Use))
    (granted : Record α → Option String) : Prop :=
  ∀ (c : Controller α) (now : Moment) (a : Action),
    match use ⟨now, a, (c.step now a).1⟩ with
    | none => family (c.step now a).2 = family c ∧ granted ⟨now, a, (c.step now a).1⟩ = none
    | some (t, u) =>
      t = now ∧ family (c.step now a).2 = (family c).apply c.evictionWindow now u ∧
        granted ⟨now, a, (c.step now a).1⟩ = (family c).granted? now u

theorem follows_address :
    Follows (α := α) (·.address) Record.addressUse Record.passed? := by
  intro c now a
  cases a with
  | check address key =>
    refine ⟨rfl, ?_⟩
    simp only [step, check_eq, Scope.apply, Scope.granted?]
    split_ifs <;> exact ⟨rfl, rfl⟩
  | status address key => exact ⟨rfl, rfl⟩
  | reconfigure addressLimit apiKeyLimit => exact ⟨rfl, rfl, rfl⟩
  | evictIdle => exact ⟨rfl, rfl, rfl⟩

theorem follows_apiKey :
    Follows (α := α) (·.apiKey) Record.keyUse Record.admitted? := by
  intro c now a
  cases a with
  | check address key =>
    simp only [step, check_eq]
    split_ifs with ha hk
    · exact ⟨rfl, rfl, by simp [Record.admitted?, Scope.granted?, hk]⟩
    · exact ⟨rfl, rfl, by simp [Record.admitted?, Scope.granted?, hk]⟩
    · exact ⟨rfl, rfl⟩
  | status address key => exact ⟨rfl, rfl⟩
  | reconfigure addressLimit apiKeyLimit => exact ⟨rfl, rfl, rfl⟩
  | evictIdle => exact ⟨rfl, rfl, rfl⟩

section

variable {c : Controller α} {steps : List (Moment × Action)} {family : Controller α → Scope α}
  {use : Record α → Option (Moment × Use)} {granted : Record α → Option String}

/-- What becomes of a family in a run is what becomes of it in its uses. -/
theorem Follows.family_after (h : Follows family use granted) :
    family (c.after steps) = (family c).run c.evictionWindow ((c.trace steps).filterMap use) := by
  induction steps generalizing c with
  | nil => rfl
  | cons s r ih =>
    obtain ⟨now, a⟩ := s
    have hstep := h c now a
    rw [after, ih, evictionWindow_step, trace, List.filterMap_cons]
    cases hu : use ⟨now, a, (c.step now a).1⟩ with
    | none =>
      simp only [hu] at hstep
      rw [hstep.1]
    | some u =>
      simp only [hu] at hstep
      obtain ⟨rfl, hafter, -⟩ := hstep
      rw [hafter, Scope.run, Scope.run, List.foldl_cons]

/-- The moments of the uses of a family are moments of the run. -/
theorem Follows.forall_uses (h : Follows family use granted) {p : Moment → Prop}
    (hp : ∀ s ∈ steps, p s.1) : ∀ u ∈ (c.trace steps).filterMap use, p u.1 := by
  induction steps generalizing c with
  | nil => simp [trace]
  | cons s r ih =>
    obtain ⟨now, a⟩ := s
    obtain ⟨hnow, hrest⟩ := List.forall_mem_cons.1 hp
    have hstep := h c now a
    rw [trace, List.filterMap_cons]
    cases hu : use ⟨now, a, (c.step now a).1⟩ with
    | none => exact ih hrest
    | some u =>
      simp only [hu] at hstep
      obtain ⟨rfl, -⟩ := hstep
      exact List.forall_mem_cons.2 ⟨hnow, ih hrest⟩

/-- The uses of a family come in the order of the run. -/
theorem Follows.pairwise_uses (h : Follows family use granted)
    (hsorted : steps.Pairwise fun s t => s.1 ≤ t.1) :
    ((c.trace steps).filterMap use).Pairwise fun u v => u.1 ≤ v.1 := by
  induction steps generalizing c with
  | nil => exact .nil
  | cons s r ih =>
    obtain ⟨now, a⟩ := s
    obtain ⟨hlater, hrest⟩ := List.pairwise_cons.1 hsorted
    have hstep := h c now a
    rw [trace, List.filterMap_cons]
    cases hu : use ⟨now, a, (c.step now a).1⟩ with
    | none => exact ih hrest
    | some u =>
      simp only [hu] at hstep
      obtain ⟨rfl, -⟩ := hstep
      exact List.pairwise_cons.2 ⟨h.forall_uses hlater, ih hrest⟩

end

/-- What a record says that a family gave out in a run is what the family gives out in its uses. -/
theorem Follows.grants_eq {family : Controller α → Scope α}
    {use : Record α → Option (Moment × Use)} {granted : Record α → Option String}
    (h : Follows family use granted) (c : Controller α) (steps : List (Moment × Action)) :
    ((c.trace steps).filterMap fun r => (granted r).map fun identifier => (r.moment, identifier)) =
      (family c).grants c.evictionWindow ((c.trace steps).filterMap use) := by
  induction steps generalizing c with
  | nil => rfl
  | cons s r ih =>
    obtain ⟨now, a⟩ := s
    have hstep := h c now a
    have ih := ih (c.step now a).2
    rw [evictionWindow_step] at ih
    rw [trace, List.filterMap_cons, List.filterMap_cons]
    cases hu : use ⟨now, a, (c.step now a).1⟩ with
    | none =>
      simp only [hu] at hstep
      simp only [hstep.2, Option.map_none, ih, hstep.1]
    | some p =>
      obtain ⟨t, u⟩ := p
      simp only [hu] at hstep
      obtain ⟨rfl, hafter, hgranted⟩ := hstep
      rw [Scope.grants, ← hafter, ← ih, hgranted]
      cases (family c).granted? t u <;> rfl

end Controller

end Footfall.Admission
