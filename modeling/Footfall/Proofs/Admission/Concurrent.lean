import Mathlib.Data.Fin.VecNotation
import Mathlib.Data.Fintype.Card
import Footfall.Proofs.Admission.Reading

/-!
# Requests at the same time

Requests that arrive together are checked side by side. A check consists of two atomic steps, that
of the address and, if a token was there, that of the key; in between, other checks may take theirs.
A schedule says whose step comes next (`InFlight.run`). Two steps of one check without others in
between are `Controller.check` (`InFlight.advance_advance`), and a check is decided after two steps
(`InFlight.isDecided_run`).

Whatever the schedule is, as many tokens are given out as there are, or as were asked for. The
argument keeps the books of a family of buckets since the requests arrived (`Scope.Tally`): what was
given to an identifier is the smaller one of what it asked for and of the whole tokens it had, and
its tokens are less by that. Every step of a check keeps the books of both families
(`InFlight.Balanced.advance`), so they are right at any point of any schedule; when all checks are
decided, they say what `InFlight.run_counts` says.
-/

namespace Footfall.Admission

variable {now : Moment}

/-! ## The books of a family of buckets -/

/-- The books of a family of buckets at a moment: how many tokens each identifier asked for since
the family was as at the start, and how many it was given. -/
structure Scope.Tally (start s : Scope ℚ) (now : Moment) (asked granted : String → ℕ) : Prop where
  granted_eq : ∀ identifier,
    granted identifier = min (asked identifier) ⌊start.remaining identifier now⌋₊
  remaining_eq : ∀ identifier,
    s.remaining identifier now = start.remaining identifier now - granted identifier

namespace Scope.Tally

variable {start s : Scope ℚ} {asked granted asked' granted' : String → ℕ}

theorem refl (s : Scope ℚ) : s.Tally s now (fun _ => 0) fun _ => 0 where
  granted_eq _ := (Nat.zero_min _).symm
  remaining_eq _ := by rw [Nat.cast_zero, sub_zero]

/-- A token is there exactly if not all whole ones were given out. -/
theorem one_le_iff (h : start.Tally s now asked granted) (j : String) :
    1 ≤ s.remaining j now ↔ granted j < ⌊start.remaining j now⌋₊ := by
  rw [h.remaining_eq, le_sub_iff_add_le, ← Nat.add_one_le_iff, Nat.le_floor_iff' (by omega)]
  push_cast
  rw [add_comm]

/-- Asking for a token keeps the books. -/
theorem take (h : start.Tally s now asked granted) (j : String)
    (hasked : ∀ i, asked' i = asked i + if i = j then 1 else 0)
    (hgranted : ∀ i, granted' i = granted i + if i = j ∧ (s.take j now).1 = true then 1 else 0) :
    start.Tally (s.take j now).2 now asked' granted' := by
  simp only [take_fst_eq, decide_eq_true_eq, h.one_le_iff] at hgranted
  refine ⟨fun i => ?_, fun i => ?_⟩
  · have hi := h.granted_eq i
    rw [hasked, hgranted]
    by_cases hij : i = j
    · subst hij
      simp only [true_and, if_true]
      split_ifs with hlt
      · omega
      · omega
    · simpa only [hij, false_and, if_false, Nat.add_zero] using hi
  · rw [hgranted]
    by_cases hij : i = j
    · subst hij
      rw [remaining_take_self, h.remaining_eq]
      have hone := h.one_le_iff i
      rw [h.remaining_eq] at hone
      simp only [true_and, hone]
      split_ifs
      · push_cast
        ring
      · simp
    · rw [remaining_take_of_ne _ _ hij, h.remaining_eq, if_neg fun hc => hij hc.1, Nat.add_zero]

end Scope.Tally

/-! ## Requests under way -/

/-- A request for admission. -/
structure Request where
  address : String
  key : String

/-- How far the check of a request has come. -/
inductive Progress where
  | waiting
  /-- The address has given a token, and the key is to be asked. -/
  | passed
  | decided (o : Outcome)
  deriving DecidableEq, Repr

namespace Progress

/-- The progress after the address was asked, within its limit. -/
def ofAddress (r : Request) (limit : ℕ) (taken : Bool) : Progress :=
  if taken then .passed else .decided (.exceeded .address r.address limit)

/-- The progress after the key was asked, within its limit. -/
def ofKey (r : Request) (limit : ℕ) (taken : Bool) : Progress :=
  .decided (if taken then .allowed else .exceeded .apiKey r.key limit)

/-- Was the address asked? -/
def askedAddress : Progress → Bool
  | .waiting => false
  | _ => true

/-- Has the address given a token? -/
def passedAddress : Progress → Bool
  | .waiting => false
  | .passed => true
  | .decided (.exceeded .address _ _) => false
  | .decided _ => true

/-- Was the key asked? -/
def askedKey : Progress → Bool
  | .waiting => false
  | .passed => false
  | .decided (.exceeded .address _ _) => false
  | .decided _ => true

/-- Did the check end in admission? -/
def isAllowed : Progress → Bool
  | .decided .allowed => true
  | _ => false

/-- Is the check over? -/
def isDecided : Progress → Bool
  | .decided _ => true
  | _ => false

/-- The number of steps that a check may still take. -/
def stepsLeft : Progress → ℕ
  | .waiting => 2
  | .passed => 1
  | .decided _ => 0

section

variable (r : Request) (limit : ℕ) (taken : Bool)

@[simp] theorem askedAddress_ofAddress : (ofAddress r limit taken).askedAddress = true := by
  cases taken <;> rfl

@[simp] theorem passedAddress_ofAddress : (ofAddress r limit taken).passedAddress = taken := by
  cases taken <;> rfl

@[simp] theorem askedKey_ofAddress : (ofAddress r limit taken).askedKey = false := by
  cases taken <;> rfl

@[simp] theorem isAllowed_ofAddress : (ofAddress r limit taken).isAllowed = false := by
  cases taken <;> rfl

theorem stepsLeft_ofAddress_le : (ofAddress r limit taken).stepsLeft ≤ 1 := by
  cases taken
  · exact Nat.zero_le 1
  · exact le_refl 1

@[simp] theorem passedAddress_ofKey : (ofKey r limit taken).passedAddress = true := by
  cases taken <;> rfl

@[simp] theorem askedKey_ofKey : (ofKey r limit taken).askedKey = true := by
  cases taken <;> rfl

@[simp] theorem isAllowed_ofKey : (ofKey r limit taken).isAllowed = taken := by
  cases taken <;> rfl

end

theorem askedAddress_of_isDecided {p : Progress} (h : p.isDecided = true) :
    p.askedAddress = true := by
  cases p with
  | waiting => cases h
  | passed => cases h
  | decided o => rfl

/-- Once a check is over, its key was asked if its address gave a token. -/
theorem askedKey_of_isDecided {p : Progress} (h : p.isDecided = true) :
    p.askedKey = p.passedAddress := by
  cases p with
  | waiting => cases h
  | passed => cases h
  | decided o => rcases o with _ | ⟨_ | _, _, _⟩ <;> rfl

theorem isDecided_of_stepsLeft {p : Progress} (h : p.stepsLeft = 0) : p.isDecided = true := by
  cases p with
  | waiting => cases h
  | passed => cases h
  | decided o => rfl

end Progress

/-- The admission control and the progress of the requests that arrived together. -/
structure InFlight (ι α : Type) where
  controller : Controller α
  progress : ι → Progress

namespace InFlight

section Schedule

variable {ι α : Type} [DecidableEq ι] [Scalar α] (requests : ι → Request) (now : Moment)

/-- The requests have arrived. -/
def start (c : Controller α) : InFlight ι α := ⟨c, fun _ => .waiting⟩

/-- The next step of the check of a request. A check that is over takes none. -/
def advance (f : InFlight ι α) (i : ι) : InFlight ι α :=
  match f.progress i with
  | .waiting =>
    let (taken, c) := f.controller.takeAddress (requests i).address now
    ⟨c, Function.update f.progress i (.ofAddress (requests i) c.address.capacity taken)⟩
  | .passed =>
    let (taken, c) := f.controller.takeKey (requests i).key now
    ⟨c, Function.update f.progress i (.ofKey (requests i) c.apiKey.capacity taken)⟩
  | .decided _ => f

/-- The requests after the steps of a schedule. -/
def run (f : InFlight ι α) (schedule : List ι) : InFlight ι α :=
  schedule.foldl (advance requests now) f

variable {requests now} {f : InFlight ι α} {i : ι}

theorem run_append (before rest : List ι) :
    f.run requests now (before ++ rest) = (f.run requests now before).run requests now rest :=
  List.foldl_append

/-! ### What a step does -/

theorem advance_waiting (h : f.progress i = .waiting) :
    f.advance requests now i =
      ⟨{ f.controller with
          address := (f.controller.address.take (requests i).address now).2 },
        Function.update f.progress i (.ofAddress (requests i) f.controller.address.capacity
          (f.controller.address.take (requests i).address now).1)⟩ := by
  unfold advance
  rw [h]
  rfl

theorem advance_passed (h : f.progress i = .passed) :
    f.advance requests now i =
      ⟨{ f.controller with apiKey := (f.controller.apiKey.take (requests i).key now).2 },
        Function.update f.progress i (.ofKey (requests i) f.controller.apiKey.capacity
          (f.controller.apiKey.take (requests i).key now).1)⟩ := by
  unfold advance
  rw [h]
  rfl

theorem advance_decided {o : Outcome} (h : f.progress i = .decided o) :
    f.advance requests now i = f := by
  unfold advance
  rw [h]

/-- A step is the business of its request only. -/
theorem progress_advance_of_ne {j : ι} (hj : j ≠ i) :
    (f.advance requests now i).progress j = f.progress j := by
  cases h : f.progress i with
  | waiting =>
    rw [advance_waiting h]
    exact Function.update_of_ne hj ..
  | passed =>
    rw [advance_passed h]
    exact Function.update_of_ne hj ..
  | decided o => rw [advance_decided h]

/-- **A check is its two steps.** Without others in between they decide as the check does and leave
the same admission control. -/
theorem advance_advance (h : f.progress i = .waiting) :
    (f.advance requests now i).advance requests now i =
      ⟨(f.controller.check (requests i).address (requests i).key now).2,
        Function.update f.progress i (.decided
          (f.controller.check (requests i).address (requests i).key now).1)⟩ := by
  rw [Controller.check_eq, advance_waiting h]
  cases htake : (f.controller.address.take (requests i).address now).1 with
  | false => exact advance_decided (Function.update_self ..)
  | true =>
    rw [advance_passed (Function.update_self ..)]
    simp only [Function.update_idem, Progress.ofKey, if_true]
    split_ifs <;> rfl

/-! ### Checks end -/

theorem stepsLeft_advance :
    ((f.advance requests now i).progress i).stepsLeft ≤ (f.progress i).stepsLeft - 1 := by
  cases h : f.progress i with
  | waiting =>
    rw [advance_waiting h]
    simp only [Function.update_self]
    exact Progress.stepsLeft_ofAddress_le ..
  | passed =>
    rw [advance_passed h]
    simp only [Function.update_self]
    exact le_refl 0
  | decided o =>
    rw [advance_decided h, h]
    exact le_refl 0

theorem stepsLeft_run (schedule : List ι) :
    ((f.run requests now schedule).progress i).stepsLeft ≤
      (f.progress i).stepsLeft - schedule.count i := by
  induction schedule generalizing f with
  | nil => exact le_refl _
  | cons j r ih =>
    have hrest := ih (f := f.advance requests now j)
    change ((run requests now (f.advance requests now j) r).progress i).stepsLeft ≤ _
    by_cases hj : j = i
    · subst hj
      have hstep : ((f.advance requests now j).progress j).stepsLeft ≤
          (f.progress j).stepsLeft - 1 := stepsLeft_advance
      rw [List.count_cons_self]
      omega
    · rw [progress_advance_of_ne (Ne.symm hj)] at hrest
      rwa [List.count_cons_of_ne hj]

/-- A check that had two steps is over. -/
theorem isDecided_run {schedule : List ι} (h : 2 ≤ schedule.count i) :
    ((f.run requests now schedule).progress i).isDecided = true := by
  have hleft : ((f.run requests now schedule).progress i).stepsLeft ≤
      (f.progress i).stepsLeft - schedule.count i := stepsLeft_run schedule
  have htwo : (f.progress i).stepsLeft ≤ 2 := by
    cases f.progress i <;> simp [Progress.stepsLeft]
  exact Progress.isDecided_of_stepsLeft (by omega)

/-! ### An address that refuses costs the key nothing -/

theorem passedAddress_advance (h : (f.progress i).passedAddress = true) (j : ι) :
    ((f.advance requests now j).progress i).passedAddress = true := by
  by_cases hj : j = i
  · subst hj
    cases hp : f.progress j with
    | waiting =>
      rw [hp] at h
      cases h
    | passed =>
      rw [advance_passed hp]
      simp only [Function.update_self, Progress.passedAddress_ofKey]
    | decided o => rwa [advance_decided hp]
  · rwa [progress_advance_of_ne (Ne.symm hj)]

/-- An address does not take back the token that it has given. -/
theorem passedAddress_run (h : (f.progress i).passedAddress = true) (schedule : List ι) :
    ((f.run requests now schedule).progress i).passedAddress = true := by
  induction schedule generalizing f with
  | nil => exact h
  | cons j r ih => exact ih (passedAddress_advance h j)

/-- No step of a check that its address refuses in the end touches the buckets of the keys. -/
theorem apiKey_advance_of_refused {rest : List ι}
    (h : (((f.advance requests now i).run requests now rest).progress i).passedAddress = false) :
    (f.advance requests now i).controller.apiKey = f.controller.apiKey := by
  cases hp : f.progress i with
  | waiting => rw [advance_waiting hp]
  | passed =>
    have hpassed : (f.progress i).passedAddress = true := by rw [hp]; rfl
    rw [passedAddress_run (passedAddress_advance hpassed i)] at h
    cases h
  | decided o => rw [advance_decided hp]

end Schedule

/-! ## Counting requests -/

section Count

variable {ι α : Type} [Fintype ι] {f : InFlight ι α} {c : Controller α} {name : ι → String}
  {p : Progress → Bool}

/-- The number of requests that name an identifier and whose progress satisfies a condition. -/
def count (f : InFlight ι α) (name : ι → String) (p : Progress → Bool) (identifier : String) : ℕ :=
  (Finset.univ.filter fun i => name i = identifier ∧ p (f.progress i) = true).card

theorem count_start (h : p .waiting = false) :
    (start c : InFlight ι α).count name p = fun _ => 0 := by
  funext identifier
  simp [count, start, h]

variable [DecidableEq ι] {i : ι} {q : Progress}

/-- A request that comes to satisfy a condition is counted from then on. -/
theorem count_update (hi : p (f.progress i) = false) (identifier : String) :
    count ⟨c, Function.update f.progress i q⟩ name p identifier =
      f.count name p identifier + if identifier = name i ∧ p q = true then 1 else 0 := by
  unfold count
  by_cases hq : name i = identifier ∧ p q = true
  · have hinsert : (Finset.univ.filter fun j =>
        name j = identifier ∧ p (Function.update f.progress i q j) = true) =
        insert i (Finset.univ.filter fun j => name j = identifier ∧ p (f.progress j) = true) := by
      ext j
      by_cases hj : j = i
      · subst hj
        simp [hq]
      · simp [hj]
    rw [hinsert, Finset.card_insert_of_notMem (by simp [hi]), if_pos ⟨hq.1.symm, hq.2⟩]
  · rw [if_neg fun h => hq ⟨h.1.symm, h.2⟩, Nat.add_zero]
    congr 1
    ext j
    by_cases hj : j = i
    · subst hj
      simpa [hi] using hq
    · simp [hj]

/-- A request that satisfies a condition as before is counted as before. -/
theorem count_update_of_eq (hi : p q = p (f.progress i)) :
    count ⟨c, Function.update f.progress i q⟩ name p = f.count name p := by
  funext identifier
  unfold count
  congr 1
  ext j
  by_cases hj : j = i
  · subst hj
    simp [hi]
  · simp [hj]

end Count

/-! ## The books of both families -/

variable {ι : Type} [Fintype ι] [DecidableEq ι] {requests : ι → Request} {c : Controller ℚ}
  {f : InFlight ι ℚ}

/-- The requests for tokens of an address. -/
abbrev countAddress (requests : ι → Request) (f : InFlight ι ℚ) (p : Progress → Bool) :
    String → ℕ :=
  f.count (fun i => (requests i).address) p

/-- The requests for tokens of a key. -/
abbrev countKey (requests : ι → Request) (f : InFlight ι ℚ) (p : Progress → Bool) : String → ℕ :=
  f.count (fun i => (requests i).key) p

/-- The books of both families are right since the requests arrived. -/
structure Balanced (requests : ι → Request) (now : Moment) (c : Controller ℚ) (f : InFlight ι ℚ) :
    Prop where
  address : c.address.Tally f.controller.address now
    (countAddress requests f Progress.askedAddress) (countAddress requests f Progress.passedAddress)
  apiKey : c.apiKey.Tally f.controller.apiKey now
    (countKey requests f Progress.askedKey) (countKey requests f Progress.isAllowed)

namespace Balanced

omit [DecidableEq ι] in
theorem start (requests : ι → Request) (now : Moment) (c : Controller ℚ) :
    Balanced requests now c (start c) := by
  refine ⟨?_, ?_⟩
  · rw [countAddress, countAddress, count_start rfl, count_start rfl]
    exact Scope.Tally.refl c.address
  · rw [countKey, countKey, count_start rfl, count_start rfl]
    exact Scope.Tally.refl c.apiKey

/-- The step of the address keeps the books. -/
theorem advance_waiting (h : Balanced requests now c f) {i : ι} (hp : f.progress i = .waiting) :
    Balanced requests now c (f.advance requests now i) := by
  rw [InFlight.advance_waiting hp]
  refine ⟨h.address.take (requests i).address (fun x => ?_) fun x => ?_, ?_⟩
  · rw [countAddress, count_update (by rw [hp]; rfl), Progress.askedAddress_ofAddress]
    simp only [and_true]
  · rw [countAddress, count_update (by rw [hp]; rfl), Progress.passedAddress_ofAddress]
  · rw [countKey, countKey, count_update_of_eq (by rw [hp, Progress.askedKey_ofAddress]; rfl),
      count_update_of_eq (by rw [hp, Progress.isAllowed_ofAddress]; rfl)]
    exact h.apiKey

/-- The step of the key keeps the books. -/
theorem advance_passed (h : Balanced requests now c f) {i : ι} (hp : f.progress i = .passed) :
    Balanced requests now c (f.advance requests now i) := by
  rw [InFlight.advance_passed hp]
  refine ⟨?_, h.apiKey.take (requests i).key (fun k => ?_) fun k => ?_⟩
  · rw [countAddress, countAddress, count_update_of_eq (by rw [hp]; rfl),
      count_update_of_eq (by rw [hp, Progress.passedAddress_ofKey]; rfl)]
    exact h.address
  · rw [countKey, count_update (by rw [hp]; rfl), Progress.askedKey_ofKey]
    simp only [and_true]
  · rw [countKey, count_update (by rw [hp]; rfl), Progress.isAllowed_ofKey]

/-- **Every step keeps the books of both families.** -/
theorem advance (h : Balanced requests now c f) (i : ι) :
    Balanced requests now c (f.advance requests now i) := by
  cases hp : f.progress i with
  | waiting => exact h.advance_waiting hp
  | passed => exact h.advance_passed hp
  | decided o => rwa [advance_decided hp]

theorem run (h : Balanced requests now c f) (schedule : List ι) :
    Balanced requests now c (f.run requests now schedule) := by
  induction schedule generalizing f with
  | nil => exact h
  | cons i r ih => exact ih (h.advance i)

end Balanced

omit [DecidableEq ι] in
/-- When all checks are over, all addresses were asked. -/
theorem countAddress_askedAddress (hdone : ∀ i, (f.progress i).isDecided = true) (x : String) :
    countAddress requests f Progress.askedAddress x =
      (Finset.univ.filter fun i => (requests i).address = x).card := by
  unfold countAddress count
  congr 1
  ext i
  simp [Progress.askedAddress_of_isDecided (hdone i)]

omit [DecidableEq ι] in
/-- When all checks are over, the keys were asked by those that passed their address. -/
theorem countKey_askedKey (hdone : ∀ i, (f.progress i).isDecided = true) :
    countKey requests f Progress.askedKey = countKey requests f Progress.passedAddress := by
  funext k
  unfold countKey count
  congr 1
  ext i
  simp [Progress.askedKey_of_isDecided (hdone i)]

/-- **Requests at the same time never overspend.** Let any requests arrive together at any admission
control, and let their checks take their steps by any schedule.

* Once all checks are over, as many of an address have passed it as there were, or as it had whole
  tokens, and of a key as many were admitted as have passed their address, or as the key had whole
  tokens. The tokens of either are less by exactly that.
* No step of a check that its address refuses changes any bucket of a key. -/
theorem run_counts (requests : ι → Request) (now : Moment) (c : Controller ℚ)
    (schedule : List ι) :
    let f := (InFlight.start c).run requests now schedule
    ((∀ i, (f.progress i).isDecided = true) →
      (∀ x, countAddress requests f Progress.passedAddress x =
          min (Finset.univ.filter fun i => (requests i).address = x).card
            ⌊c.address.remaining x now⌋₊ ∧
        f.controller.address.remaining x now =
          c.address.remaining x now - countAddress requests f Progress.passedAddress x) ∧
      ∀ k, countKey requests f Progress.isAllowed k =
          min (countKey requests f Progress.passedAddress k) ⌊c.apiKey.remaining k now⌋₊ ∧
        f.controller.apiKey.remaining k now =
          c.apiKey.remaining k now - countKey requests f Progress.isAllowed k) ∧
    ∀ before i rest, schedule = before ++ i :: rest → (f.progress i).passedAddress = false →
      ((InFlight.start c).run requests now (before ++ [i])).controller.apiKey =
        ((InFlight.start c).run requests now before).controller.apiKey := by
  intro f
  have hbalanced : Balanced requests now c f := (Balanced.start requests now c).run schedule
  refine ⟨fun hdone => ⟨fun x => ?_, fun k => ?_⟩, ?_⟩
  · have hgranted := hbalanced.address.granted_eq x
    rw [countAddress_askedAddress hdone] at hgranted
    exact ⟨hgranted, hbalanced.address.remaining_eq x⟩
  · have hgranted := hbalanced.apiKey.granted_eq k
    rw [countKey_askedKey hdone] at hgranted
    exact ⟨hgranted, hbalanced.apiKey.remaining_eq k⟩
  · rintro before i rest rfl hrefused
    have hsplit : f = (((InFlight.start c).run requests now before).advance requests now i).run
        requests now rest := run_append before (i :: rest)
    rw [hsplit] at hrefused
    rw [run_append]
    exact apiKey_advance_of_refused hrefused

/-- Three requests of one address with two tokens and another one, three of them with the same key,
which has one token; their steps are mixed. -/
theorem run_counts_four_requests :
    let requests : Fin 4 → Request := ![⟨"x", "k"⟩, ⟨"x", "k"⟩, ⟨"x", "l"⟩, ⟨"y", "k"⟩]
    let f := (InFlight.start (Controller.new 2 1)).run requests 0 [0, 1, 3, 2, 2, 1, 3, 0]
    (∀ i, (f.progress i).isDecided = true) ∧
      countAddress requests f Progress.passedAddress "x" = 2 ∧
      countKey requests f Progress.isAllowed "k" = 1 ∧
      (f.progress 2).passedAddress = false ∧
      ((InFlight.start (Controller.new 2 1 : Controller ℚ)).run requests 0
          [0, 1, 3, 2]).controller.apiKey =
        ((InFlight.start (Controller.new 2 1)).run requests 0 [0, 1, 3]).controller.apiKey := by
  intro requests f
  have hdone : ∀ i, (f.progress i).isDecided = true := by
    intro i
    refine isDecided_run ?_
    revert i
    decide
  have hrefused : (f.progress 2).passedAddress = false := by decide +kernel
  obtain ⟨hcounts, hkeys⟩ := run_counts requests 0 (Controller.new 2 1) [0, 1, 3, 2, 2, 1, 3, 0]
  obtain ⟨haddress, hkey⟩ := hcounts hdone
  refine ⟨hdone, (haddress "x").1.trans ?_, (hkey "k").1.trans ?_, hrefused, ?_⟩
  · decide +kernel
  · decide +kernel
  · exact hkeys [0, 1, 3] 2 [2, 1, 3, 0] rfl hrefused

end InFlight

end Footfall.Admission
