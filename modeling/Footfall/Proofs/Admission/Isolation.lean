import Footfall.Proofs.Admission.Run

/-!
# Clients of the admission control do not disturb each other

All buckets of a family share a capacity and nothing else. What the family holds for one identifier
is a slot (`Slot`), a bucket with its capacity, which can be used on its own. A use of the family
changes a slot as it does when the slot is alone, or not at all when it names another identifier
(`Scope.slot_apply`). By induction over a run, the bucket of an identifier is what comes of
replaying the uses that concern it (`Controller.Follows.slot_after`).

The two families are coupled: a check reaches its key only if its address does not refuse it. So
what a check is decided by are the slots of its address and its key and those of the addresses that
ask for the same key (`Controller.AgreeOn`). Checks of others leave all of these as they are
(`Controller.AgreeOn.foreign`), and whatever else happens keeps two runs in step
(`Controller.AgreeOn.step`).

`Controller.clients_isolated` puts this together. It holds for every arithmetic of tokens, rounded
or exact, and whatever the clock does.
-/

namespace Footfall.Admission

/-! ## One bucket on its own -/

/-- What a family holds for one identifier: its bucket, if there is one, and the capacity. -/
structure Slot (α : Type) where
  capacity : Nat
  bucket : Option (Bucket α)

/-- Does a use of a family concern an identifier? All but the tokens of others do. -/
def Use.concerns (identifier : String) : Use → Bool
  | .take other => other = identifier
  | .reconfigure _ => true
  | .evictIdle => true

namespace Slot

variable {α : Type} [Scalar α]

/-- Take a token from a bucket, a full one if there is none. -/
def take (s : Slot α) (now : Moment) : Bool × Slot α :=
  let (taken, b) := (s.bucket.getD (Bucket.full s.capacity now)).take s.capacity now
  (taken, { s with bucket := some b })

/-- The slot after a use that concerns it. -/
def apply (window : Nat) (s : Slot α) (now : Moment) : Use → Slot α
  | .take _ => (s.take now).2
  | .reconfigure limit => { s with capacity := max limit 1 }
  | .evictIdle => { s with bucket := s.bucket.filter fun b => elapsed b.lastRefill now < window }

/-- The slot after uses that concern it. -/
def replay (window : Nat) (s : Slot α) (uses : List (Moment × Use)) : Slot α :=
  uses.foldl (fun s u => s.apply window u.1 u.2) s

end Slot

namespace Scope

variable {α : Type} [Scalar α] (s : Scope α) (now : Moment) (j identifier : String)

/-- The slot of an identifier. -/
def slot (s : Scope α) (identifier : String) : Slot α :=
  ⟨s.capacity, s.buckets.find? identifier⟩

theorem take_fst_slot : (s.take identifier now).1 = ((s.slot identifier).take now).1 := rfl

/-- Taking a token changes the slot that it is taken from and no other. -/
theorem slot_take :
    (s.take j now).2.slot identifier =
      if identifier = j then ((s.slot identifier).take now).2 else s.slot identifier := by
  rw [slot, find?_take, capacity_take]
  split_ifs with h
  · subst h
    rfl
  · rfl

/-- **A use changes a slot as it does when the slot is alone**, if it concerns it at all. -/
theorem slot_apply (window : Nat) (u : Use) :
    (s.apply window now u).slot identifier =
      if u.concerns identifier then (s.slot identifier).apply window now u
      else s.slot identifier := by
  cases u with
  | take j =>
    rw [apply, slot_take]
    by_cases h : identifier = j <;> simp [Use.concerns, Slot.apply, h, eq_comm]
  | reconfigure limit => rfl
  | evictIdle =>
    rw [apply, slot, find?_evictIdle]
    rfl

variable {s identifier} in
/-- What two families hold for an identifier stays the same under a use of both. -/
theorem slot_apply_congr {t : Scope α} (h : s.slot identifier = t.slot identifier) (window : Nat)
    (now : Moment) (u : Use) :
    (s.apply window now u).slot identifier = (t.apply window now u).slot identifier := by
  rw [slot_apply, slot_apply, h]

end Scope

/-- The uses of a family in a run that concern one identifier. -/
def usesOf {α : Type} (use : Record α → Option (Moment × Use)) (identifier : String)
    (records : List (Record α)) : List (Moment × Use) :=
  (records.filterMap use).filter fun u => u.2.concerns identifier

namespace Controller

variable {α : Type} [Scalar α] {c d : Controller α}

/-- The slot of an identifier after a run is what comes of replaying the uses that concern it. -/
theorem Follows.slot_after {family : Controller α → Scope α}
    {use : Record α → Option (Moment × Use)} {granted : Record α → Option String}
    (h : Follows family use granted) (c : Controller α) (steps : List (Moment × Action))
    (identifier : String) :
    (family (c.after steps)).slot identifier =
      ((family c).slot identifier).replay c.evictionWindow
        (usesOf use identifier (c.trace steps)) := by
  induction steps generalizing c with
  | nil => rfl
  | cons s r ih =>
    obtain ⟨now, a⟩ := s
    have hstep := h c now a
    rw [after, ih, evictionWindow_step, trace, usesOf, usesOf, List.filterMap_cons]
    cases hu : use ⟨now, a, (c.step now a).1⟩ with
    | none =>
      simp only [hu] at hstep
      rw [hstep.1]
    | some p =>
      obtain ⟨t, u⟩ := p
      simp only [hu] at hstep
      obtain ⟨rfl, hafter, -⟩ := hstep
      rw [hafter, Scope.slot_apply, List.filter_cons]
      split_ifs <;> rfl

/-! ## Two runs in step -/

/-- A check asks its address for a token, whatever comes of it. -/
theorem addressSlot_check (c : Controller α) (address key : String) (now : Moment) (x : String) :
    (c.check address key now).2.address.slot x =
      if x = address then ((c.address.slot x).take now).2 else c.address.slot x := by
  rw [← Scope.slot_take, check_eq]
  split_ifs <;> rfl

/-- A check asks its key for a token if its address has given one. -/
theorem keySlot_check (c : Controller α) (address key : String) (now : Moment) (k : String) :
    (c.check address key now).2.apiKey.slot k =
      if k = key ∧ ((c.address.slot address).take now).1 then ((c.apiKey.slot k).take now).2
      else c.apiKey.slot k := by
  rw [check_eq, Scope.take_fst_slot]
  by_cases ha : ((c.address.slot address).take now).1
  · rw [if_pos ha]
    simp only [ha, and_true]
    rw [← Scope.slot_take]
    split_ifs <;> rfl
  · rw [if_neg ha, if_neg fun h => ha h.2]

/-- A check is decided by the slots of its address and its key. -/
theorem check_fst_slot (c : Controller α) (address key : String) (now : Moment) :
    (c.check address key now).1 =
      if ((c.address.slot address).take now).1 then
        if ((c.apiKey.slot key).take now).1 then .allowed
        else .exceeded .apiKey key (c.apiKey.slot key).capacity
      else .exceeded .address address (c.address.slot address).capacity := by
  rw [check_eq, Scope.take_fst_slot, Scope.take_fst_slot]
  split_ifs <;> rfl

/-- Two controllers that hold the same for some addresses and one key. -/
structure AgreeOn (addresses : Set String) (key : String) (c d : Controller α) : Prop where
  address : ∀ x ∈ addresses, c.address.slot x = d.address.slot x
  apiKey : c.apiKey.slot key = d.apiKey.slot key
  evictionWindow : c.evictionWindow = d.evictionWindow

namespace AgreeOn

variable {addresses : Set String} {key : String}

omit [Scalar α] in
theorem refl (addresses : Set String) (key : String) (c : Controller α) :
    AgreeOn addresses key c c :=
  ⟨fun _ _ => rfl, rfl, rfl⟩

/-- A check of one of the addresses and the key is decided alike. -/
theorem check_fst (h : AgreeOn addresses key c d) {x : String} (hx : x ∈ addresses)
    (now : Moment) : (c.check x key now).1 = (d.check x key now).1 := by
  rw [check_fst_slot, check_fst_slot, h.address x hx, h.apiKey]

/-- A check leaves two controllers in agreement, if it is of one of the addresses or of another
key. -/
theorem check (h : AgreeOn addresses key c d) {y l : String} (hl : l = key → y ∈ addresses)
    (now : Moment) :
    AgreeOn addresses key (c.check y l now).2 (d.check y l now).2 where
  address x hx := by rw [addressSlot_check, addressSlot_check, h.address x hx]
  apiKey := by
    rw [keySlot_check, keySlot_check, h.apiKey]
    by_cases hkey : key = l
    · rw [h.address y (hl hkey.symm)]
    · rw [if_neg fun hk => hkey hk.1, if_neg fun hk => hkey hk.1]
  evictionWindow := by
    have hc := c.evictionWindow_step now (.check y l)
    have hd := d.evictionWindow_step now (.check y l)
    exact (hc.trans h.evictionWindow).trans hd.symm

/-- A check of another address and another key, made on one side only, changes nothing of what the
two agree on. -/
theorem foreign (h : AgreeOn addresses key c d) {y l : String} (hy : y ∉ addresses) (hl : l ≠ key)
    (now : Moment) : AgreeOn addresses key c (d.check y l now).2 where
  address x hx := by
    have hxy : x ≠ y := ne_of_mem_of_not_mem hx hy
    rw [addressSlot_check, if_neg hxy, h.address x hx]
  apiKey := by rw [keySlot_check, if_neg fun hk => hl hk.1.symm, h.apiKey]
  evictionWindow := h.evictionWindow.trans (d.evictionWindow_step now (.check y l)).symm

/-- An action on both sides leaves two controllers in agreement. -/
theorem step (h : AgreeOn addresses key c d) {a : Action}
    (ha : ∀ y, a = .check y key → y ∈ addresses) (now : Moment) :
    AgreeOn addresses key (c.step now a).2 (d.step now a).2 := by
  cases a with
  | check y l => exact h.check (fun hl => ha y (hl ▸ rfl)) now
  | status x k => exact h
  | reconfigure addressLimit apiKeyLimit =>
    refine ⟨fun x hx => ?_, ?_, h.evictionWindow⟩
    · exact Scope.slot_apply_congr (h.address x hx) 0 now (.reconfigure addressLimit)
    · exact Scope.slot_apply_congr h.apiKey 0 now (.reconfigure apiKeyLimit)
  | evictIdle =>
    have hslot : ∀ {s u : Scope α} {x : String}, s.slot x = u.slot x →
        (s.evictIdle now c.evictionWindow).2.slot x =
          (u.evictIdle now d.evictionWindow).2.slot x := by
      intro s u x hslot
      rw [← h.evictionWindow]
      exact Scope.slot_apply_congr hslot c.evictionWindow now .evictIdle
    exact ⟨fun x hx => hslot (h.address x hx), hslot h.apiKey, h.evictionWindow⟩

end AgreeOn

/-! ## Checks of others -/

/-- A run in which further checks are put, each of an address and a key that satisfy a condition. -/
inductive MoreChecks (foreign : String → String → Prop) :
    List (Moment × Action) → List (Moment × Action) → Prop where
  | nil : MoreChecks foreign [] []
  | keep (s : Moment × Action) {steps more : List (Moment × Action)}
      (h : MoreChecks foreign steps more) : MoreChecks foreign (s :: steps) (s :: more)
  | insert (now : Moment) {y l : String} (hforeign : foreign y l)
      {steps more : List (Moment × Action)} (h : MoreChecks foreign steps more) :
      MoreChecks foreign steps ((now, .check y l) :: more)

variable {steps more : List (Moment × Action)}

/-- Checks of other addresses and other keys change nothing of what is held for some addresses and
one key, if nobody else asks for this key. -/
theorem AgreeOn.after {addresses : Set String} {key : String} (h : AgreeOn addresses key c d)
    (hmore : MoreChecks (fun y l => y ∉ addresses ∧ l ≠ key) steps more)
    (hasked : ∀ s ∈ steps, ∀ y, s.2 = .check y key → y ∈ addresses) :
    AgreeOn addresses key (c.after steps) (d.after more) := by
  induction hmore generalizing c d with
  | nil => exact h
  | keep s hmore ih =>
    exact ih (h.step (hasked s (by simp)) s.1) fun s' hs' => hasked s' (by simp [hs'])
  | insert now hforeign hmore ih =>
    exact ih (h.foreign hforeign.1 hforeign.2 now) hasked

theorem MoreChecks.imp {foreign foreign' : String → String → Prop}
    (h : MoreChecks foreign steps more) (himp : ∀ y l, foreign y l → foreign' y l) :
    MoreChecks foreign' steps more := by
  induction h with
  | nil => exact .nil
  | keep s h ih => exact .keep s ih
  | insert now hforeign h ih => exact .insert now (himp _ _ hforeign) ih

/-- The record of a check in a run is that of its outcome after the actions before it. -/
theorem getElem?_trace_check (c : Controller α) (before rest : List (Moment × Action))
    (now : Moment) (address key : String) :
    (c.trace (before ++ (now, .check address key) :: rest))[before.length]? =
      some ⟨now, .check address key, .outcome ((c.after before).check address key now).1⟩ := by
  induction before generalizing c with
  | nil => rfl
  | cons s r ih => exact ih (c.step s.1 s.2).2

/-- Is this a check that shares neither address nor key with a check of an address and a key, nor
the address with any check of that key in a run? -/
def IsForeign (address key : String) (steps : List (Moment × Action)) (y l : String) : Prop :=
  y ≠ address ∧ l ≠ key ∧ ∀ t z, (t, .check z key) ∈ steps → y ≠ z

/-- **Clients are isolated.** After any run on any controller

* the bucket of an address is the one that replaying the checks of this address alone gives, with
  all changes of the limit and all evictions;
* so is the bucket of a key, from those of its checks that their address did not refuse;
* a check has the outcome that it has in the run with any further checks that are foreign to it,
  whatever follows it. -/
theorem clients_isolated (c : Controller α) :
    (∀ steps x, (c.after steps).address.slot x =
      (c.address.slot x).replay c.evictionWindow
        (usesOf Record.addressUse x (c.trace steps))) ∧
    (∀ steps k, (c.after steps).apiKey.slot k =
      (c.apiKey.slot k).replay c.evictionWindow (usesOf Record.keyUse k (c.trace steps))) ∧
    ∀ steps more rest rest' now x k, MoreChecks (IsForeign x k steps) steps more →
      ∃ o,
        (c.trace (steps ++ (now, .check x k) :: rest))[steps.length]? =
          some ⟨now, .check x k, .outcome o⟩ ∧
        (c.trace (more ++ (now, .check x k) :: rest'))[more.length]? =
          some ⟨now, .check x k, .outcome o⟩ := by
  refine ⟨follows_address.slot_after c, follows_apiKey.slot_after c,
    fun steps more rest rest' now x k hmore => ?_⟩
  -- the addresses that decide about the check: its own, and those that ask for its key
  let addresses : Set String := fun z => z = x ∨ ∃ t, (t, Action.check z k) ∈ steps
  have hforeign : ∀ y l, IsForeign x k steps y l → y ∉ addresses ∧ l ≠ k := by
    rintro y l ⟨hyx, hlk, hasked⟩
    refine ⟨?_, hlk⟩
    rintro (rfl | ⟨t, ht⟩)
    · exact hyx rfl
    · exact hasked t y ht rfl
  have hagree : AgreeOn addresses k (c.after steps) (c.after more) := by
    refine (AgreeOn.refl addresses k c).after (hmore.imp hforeign) fun s hs y hy => Or.inr ⟨s.1, ?_⟩
    rwa [← hy]
  refine ⟨((c.after steps).check x k now).1, getElem?_trace_check c steps rest now x k, ?_⟩
  rw [getElem?_trace_check, hagree.check_fst (Or.inl rfl) now]

/-- A key that admits two requests is used up by two addresses, with and without two requests of a
third address under another key in between. -/
theorem clients_isolated_third_address :
    MoreChecks (IsForeign "x" "k" [(0, .check "x" "k"), (1, .evictIdle), (2, .check "y" "k")])
        [(0, .check "x" "k"), (1, .evictIdle), (2, .check "y" "k")]
        [(0, .check "z" "l"), (0, .check "x" "k"), (1, .evictIdle), (2, .check "z" "l"),
          (2, .check "y" "k")] ∧
      ∃ o,
        ((new 2 2 : Controller Rat).trace
            [(0, .check "x" "k"), (1, .evictIdle), (2, .check "y" "k"), (3, .check "x" "k")])[3]? =
          some ⟨3, .check "x" "k", .outcome o⟩ ∧
        ((new 2 2 : Controller Rat).trace
            [(0, .check "z" "l"), (0, .check "x" "k"), (1, .evictIdle), (2, .check "z" "l"),
              (2, .check "y" "k"), (3, .check "x" "k"), (3, .status "x" "k")])[5]? =
          some ⟨3, .check "x" "k", .outcome o⟩ := by
  have hforeign : IsForeign "x" "k" [(0, .check "x" "k"), (1, .evictIdle), (2, .check "y" "k")]
      "z" "l" := by
    refine ⟨by decide, by decide, fun t z hz => ?_⟩
    simp only [List.mem_cons, Prod.mk.injEq, Action.check.injEq, List.not_mem_nil, or_false,
      reduceCtorEq, and_false, false_or, and_true] at hz
    rcases hz with ⟨-, rfl⟩ | ⟨-, rfl⟩ <;> decide
  have hmore : MoreChecks
      (IsForeign "x" "k" [(0, .check "x" "k"), (1, .evictIdle), (2, .check "y" "k")])
      [(0, .check "x" "k"), (1, .evictIdle), (2, .check "y" "k")]
      [(0, .check "z" "l"), (0, .check "x" "k"), (1, .evictIdle), (2, .check "z" "l"),
        (2, .check "y" "k")] :=
    .insert _ hforeign (.keep _ (.keep _ (.insert _ hforeign (.keep _ .nil))))
  exact ⟨hmore, (clients_isolated (new 2 2 : Controller Rat)).2.2 _ _ [] [(3, .status "x" "k")] 3
    "x" "k" hmore⟩

end Controller

end Footfall.Admission
