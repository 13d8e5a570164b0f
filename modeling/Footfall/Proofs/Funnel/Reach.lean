import Mathlib.Data.List.Forall2
import Footfall.Funnel.Analysis
import Footfall.Proofs.Session

/-!
# What it means to reach a step of a funnel

The walk through a funnel commits itself at every step to the earliest event that takes it. This
module says what the counts of an analysis mean without the walk: a session reaches a step when
*some* choice of its events takes all steps up to it, one event a step, at strictly increasing
instants from the start of the range on (`TakesFrom`, `CanTake`).

The two agree because a choice of events can be exchanged, one event after the other, for the
choice of the walk: the walk's event for a step is never later than that of any other choice, so
whatever comes after the other choice's event also comes after the walk's
(`Session.le_length_walkFrom_iff`). The main statement about analyses is
`Funnel.analyze_sessions_eq_takers`.
-/

namespace Footfall

/-- The event satisfies the step: the type of the step names a criterion, and the event meets it. -/
def FunnelStep.SatisfiedBy (s : FunnelStep) (e : Event) : Prop :=
  ∃ c, Criterion.parse s.stepType = some c ∧
    c.accepts e.kind e.eventName e.path s.matchValue = true

theorem FunnelStep.takenBy_iff {s : FunnelStep} {e : Event} :
    s.takenBy e = true ↔ s.SatisfiedBy e := by
  unfold takenBy SatisfiedBy
  cases Criterion.parse s.stepType with
  | none => simp
  | some c => simp [Criterion.meets]

/-- The chosen events take the steps one by one, at strictly increasing instants, the first of
which is one that `admits` allows. -/
structure TakesFrom (admits : Timestamp → Bool) (steps : List FunnelStep) (chosen : List Event) :
    Prop where
  satisfies : List.Forall₂ FunnelStep.SatisfiedBy steps chosen
  increasing : chosen.Pairwise fun a b => a.createdAt < b.createdAt
  admitted : ∀ e ∈ chosen.head?, admits e.createdAt = true

namespace TakesFrom

variable {admits : Timestamp → Bool} {s : FunnelStep} {rest : List FunnelStep} {e : Event}
  {es : List Event}

theorem nil (admits : Timestamp → Bool) : TakesFrom admits [] [] :=
  ⟨.nil, .nil, by simp⟩

/-- The first event is admitted and satisfies the first step; the others take the other steps after
it. -/
theorem cons_iff : TakesFrom admits (s :: rest) (e :: es) ↔
    admits e.createdAt = true ∧ s.SatisfiedBy e ∧
      TakesFrom (fun t => decide (e.createdAt < t)) rest es := by
  constructor
  · rintro ⟨hs, hi, ha⟩
    obtain ⟨hse, hs⟩ := List.forall₂_cons.1 hs
    obtain ⟨hlt, hi⟩ := List.pairwise_cons.1 hi
    refine ⟨ha e rfl, hse, hs, hi, fun e' he' => ?_⟩
    simpa using hlt e' (List.mem_of_mem_head? he')
  · rintro ⟨ha, hse, hs, hi, hlt⟩
    refine ⟨.cons hse hs, List.pairwise_cons.2 ⟨fun e' he' => ?_, hi⟩, by simpa using ha⟩
    -- the head of `es` comes after `e`, and the others come after the head
    cases es with
    | nil => simp at he'
    | cons f fs =>
      have hf : e.createdAt < f.createdAt := by simpa using hlt f rfl
      rcases List.mem_cons.1 he' with rfl | he'
      · exact hf
      · exact hf.trans ((List.pairwise_cons.1 hi).1 e' he')

theorem mono {admits' : Timestamp → Bool} {steps : List FunnelStep}
    (h : ∀ t, admits t = true → admits' t = true) (ht : TakesFrom admits steps es) :
    TakesFrom admits' steps es :=
  ⟨ht.satisfies, ht.increasing, fun e he => h _ (ht.admitted e he)⟩

end TakesFrom

/-- **The walk loses nothing and adds nothing.** A walk over events in order of time gets through
`n` steps exactly when some choice of the events takes them. -/
theorem Session.le_length_walkFrom_iff {s : Session} (hs : Chronological s.events)
    (admits : Timestamp → Bool) (steps : List FunnelStep) {n : ℕ} (hn : n ≤ steps.length) :
    n ≤ (s.walkFrom admits steps).length ↔
      ∃ chosen, (∀ e ∈ chosen, e ∈ s.events) ∧ TakesFrom admits (steps.take n) chosen := by
  induction steps generalizing admits n with
  | nil =>
    obtain rfl : n = 0 := by simpa using hn
    exact ⟨fun _ => ⟨[], by simp, .nil admits⟩, fun _ => Nat.zero_le _⟩
  | cons step rest ih =>
    cases n with
    | zero => exact ⟨fun _ => ⟨[], by simp, .nil admits⟩, fun _ => Nat.zero_le _⟩
    | succ n =>
      have hn' : n ≤ rest.length := by simpa using hn
      rw [walkFrom, List.take_succ_cons]
      cases hfind : s.events.find? fun e => admits e.createdAt && step.takenBy e with
      | none =>
        refine iff_of_false (by simp) ?_
        rintro ⟨chosen, hmem, ht⟩
        obtain ⟨e, es, -, -, rfl⟩ := List.forall₂_cons_left_iff.1 ht.satisfies
        obtain ⟨ha, hse, -⟩ := TakesFrom.cons_iff.1 ht
        have hno := List.find?_eq_none.1 hfind e (hmem e (by simp))
        simp [ha, FunnelStep.takenBy_iff.2 hse] at hno
      | some hit =>
        have hp := List.find?_some hfind
        rw [Bool.and_eq_true, FunnelStep.takenBy_iff] at hp
        simp only [List.length_cons, Nat.succ_le_succ_iff, ih _ hn']
        constructor
        · rintro ⟨chosen, hmem, ht⟩
          refine ⟨hit :: chosen, List.forall_mem_cons.2 ⟨?_, hmem⟩, ?_⟩
          · exact List.mem_of_find?_eq_some hfind
          · exact TakesFrom.cons_iff.2 ⟨hp.1, hp.2, ht⟩
        · rintro ⟨chosen, hmem, ht⟩
          obtain ⟨e, es, -, -, rfl⟩ := List.forall₂_cons_left_iff.1 ht.satisfies
          obtain ⟨ha, hse, ht⟩ := TakesFrom.cons_iff.1 ht
          refine ⟨es, fun e' he' => hmem e' (by simp [he']), ht.mono fun t hlt => ?_⟩
          -- the exchange: what comes after `e` comes after the earliest event as well
          have hle : hit.createdAt ≤ e.createdAt :=
            hs.le_of_find? hfind (hmem e (by simp)) (by simp [ha, FunnelStep.takenBy_iff.2 hse])
          simp only [decide_eq_true_eq] at hlt ⊢
          exact lt_of_le_of_lt hle hlt

/-- Some choice of the events with a session identifier takes the steps, from the start of the
range on. -/
def CanTake (events : List Event) (start : Timestamp) (steps : List FunnelStep) (id : String) :
    Prop :=
  ∃ chosen : List Event, (∀ e ∈ chosen, e ∈ events ∧ e.sessionId = id) ∧
    TakesFrom (fun t => decide (start ≤ t)) steps chosen

theorem le_length_walk_iff (events : List Event) (start : Timestamp) (steps : List FunnelStep)
    (id : String) {n : ℕ} (hn : n ≤ steps.length) :
    n ≤ ((Session.ofId events id).walk start steps).length ↔
      CanTake events start (steps.take n) id := by
  rw [Session.walk, Session.le_length_walkFrom_iff (Session.pairwise_events_ofId events id) _ _ hn]
  simp only [Session.mem_events_ofId, CanTake]

open scoped Classical in
/-- The number of session identifiers of a list of events of which some choice takes the steps. -/
noncomputable def takers (events : List Event) (start : Timestamp) (steps : List FunnelStep) : ℕ :=
  ((events.map (·.sessionId)).toFinset.filter (CanTake events start steps)).card

/-- The walks of all sessions of a list of events. -/
def walks (events : List Event) (start : Timestamp) (steps : List FunnelStep) :
    List (List Timestamp) :=
  (Session.group events).map fun s => s.walk start steps

theorem reached_walks (events : List Event) (start : Timestamp) (steps : List FunnelStep) {k : ℕ}
    (hk : k < steps.length) :
    reached (walks events start steps) k = takers events start (steps.take (k + 1)) := by
  classical
  rw [reached, walks, Session.group_eq, List.map_map, List.countP_map, Session.ids, countP_distinct,
    takers]
  congr 1
  ext id
  simp only [Function.comp, decide_eq_true_eq, Finset.mem_filter, ← Nat.succ_le_iff,
    Nat.succ_eq_add_one, le_length_walk_iff events start steps id hk]

/-! ## Leaving steps out -/

theorem Session.walkFrom_take (s : Session) (steps : List FunnelStep) :
    ∀ (admits : Timestamp → Bool) (n : ℕ),
      s.walkFrom admits (steps.take n) = (s.walkFrom admits steps).take n := by
  induction steps with
  | nil => simp [walkFrom]
  | cons step rest ih =>
    intro admits n
    cases n with
    | zero => simp [walkFrom]
    | succ n =>
      rw [List.take_succ_cons, walkFrom, walkFrom]
      cases s.events.find? fun e => admits e.createdAt && step.takenBy e with
      | none => rfl
      | some hit => simp only [ih, List.take_succ_cons]

theorem walks_take (events : List Event) (start : Timestamp) (steps : List FunnelStep) (n : ℕ) :
    walks events start (steps.take n) = (walks events start steps).map (·.take n) := by
  simp only [walks, List.map_map, Function.comp_def, Session.walk, Session.walkFrom_take]

theorem reached_take (ws : List (List Timestamp)) {k n : ℕ} (hk : k < n) :
    reached (ws.map (·.take n)) k = reached ws k := by
  rw [reached, reached, List.countP_map]
  refine List.countP_congr fun w _ => ?_
  simp only [Function.comp, List.length_take, decide_eq_true_eq]
  omega

theorem gaps_take (ws : List (List Timestamp)) {k n : ℕ} (hk : k < n) :
    gaps (ws.map (·.take n)) k = gaps ws k := by
  rw [gaps, gaps, List.filterMap_map]
  refine List.filterMap_congr fun w _ => ?_
  simp only [Function.comp, List.getElem?_take_of_lt hk,
    List.getElem?_take_of_lt (lt_of_le_of_lt (Nat.sub_le k 1) hk)]

/-- The row of a step does not look at what the walks do after it. -/
theorem Funnel.stepResult_take {α : Type} [Scalar α] (ws : List (List Timestamp))
    (step : FunnelStep) {k n : ℕ} (hk : k < n) :
    (stepResult (ws.map (·.take n)) step k : StepResult α) = stepResult ws step k := by
  simp only [stepResult, reached_take ws hk, gaps_take ws hk, List.length_map,
    reached_take ws (lt_of_le_of_lt (Nat.sub_le k 1) hk)]

/-! ## The analysis -/

namespace Funnel

variable {α : Type} [Scalar α]

/-- The rows of an analysis are those of the steps in order, whether there are any or not. -/
theorem analyze_steps (f : Funnel) (events : List Event) (start : Timestamp) :
    (f.analyze events start : FunnelAnalysis α).steps =
      f.ordered.zipIdx.map fun p => stepResult (walks events start f.ordered) p.1 p.2 := by
  rw [analyze]
  split_ifs with h
  · have ho : f.ordered = [] := by
      rw [List.isEmpty_iff] at h
      rw [← List.length_eq_zero_iff, ordered, length_sortBy, h, List.length_nil]
    simp [emptyAnalysis, ho]
  · rfl

theorem ordered_of_pairwise {f : Funnel} {steps : List FunnelStep}
    (h : steps.Pairwise fun a b => a.number ≤ b.number) :
    { f with steps := steps }.ordered = steps :=
  sortBy_of_pairwise h

/-- **The analysis counts the sessions that can take the steps.** Its rows are those of the steps in
stable order of their numbers; the row of a step counts the sessions of which some choice of events
takes all steps up to it; and the row is the same, in all its figures, without the steps after
it. -/
theorem analyze_sessions_eq_takers (f : Funnel) (events : List Event) (start : Timestamp) :
    StableOrder FunnelStep.number f.steps f.ordered ∧
      ((f.analyze events start : FunnelAnalysis α).steps.map fun r =>
          (r.number, r.label, r.sessions)) =
        (f.ordered.zipIdx.map fun p =>
          (p.1.number, p.1.label, takers events start (f.ordered.take (p.2 + 1)))) ∧
      ∀ k : ℕ, (f.analyze events start : FunnelAnalysis α).steps[k]? =
        ({ f with steps := f.ordered.take (k + 1) }.analyze events start :
          FunnelAnalysis α).steps[k]? := by
  refine ⟨stableOrder_sortBy _ _, ?_, fun k => ?_⟩
  · rw [analyze_steps, List.map_map]
    refine List.map_congr_left fun p hp => ?_
    have hk : p.2 < f.ordered.length := by
      have hlt := List.snd_lt_of_mem_zipIdx hp
      omega
    simp only [Function.comp, stepResult, reached_walks events start _ hk]
  · have hpre : { f with steps := f.ordered.take (k + 1) }.ordered = f.ordered.take (k + 1) :=
      ordered_of_pairwise ((pairwise_sortBy _ _).sublist (List.take_sublist _ _))
    rw [analyze_steps, analyze_steps, hpre, walks_take]
    simp only [List.getElem?_map, List.getElem?_zipIdx, Option.map_map,
      List.getElem?_take_of_lt (Nat.lt_succ_self k), Function.comp_def, Nat.zero_add,
      stepResult_take _ _ (Nat.lt_succ_self k)]

end Funnel

end Footfall
