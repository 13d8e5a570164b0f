import Footfall.Proofs.Funnel.Reach
import Footfall.Proofs.Scalar
import Footfall.Webhook.Detection

/-!
# Three ways to meet a goal

Whether an event meets a goal is decided in three places: by the watcher when the event is stored,
which tells the webhooks of it (`Goal.fires`); by the conversions of a range, which take the path of
any event for a page view (`Goal.converted`); and by the steps of funnels.

* Every job of a goal comes from a goal that fires, and every subscriber gets one
  (`length_goalJobs`).
* Conversions count the sessions with an event that meets the goal loosely
  (`Goal.conversions_eq_card`), among them those in which the goal fires
  (`Goal.sessionsWith_fires_subset`).
* A funnel of one step counts the sessions with an event that takes the step
  (`Funnel.analyze_singleton`), which are those in which a goal of the same type fires.

`Goal.webhooks_conversions_funnels_agree` puts these together: what webhooks are told of is counted
as a conversion, and goals on custom events count nothing else.
-/

namespace Footfall

variable {events : List Event} {id : String}

/-! ## The watcher -/

namespace Goal

variable {g : Goal} {e : Event}

/-- The watcher takes the event for one that meets the goal. -/
def fires (g : Goal) (e : Event) : Bool := (g.metBy e.sighting).isSome

theorem fires_eq (g : Goal) (e : Event) :
    g.fires e = g.criterion.any fun c => c.meets g.matchValue e := by
  rw [fires, metBy]
  cases g.criterion with
  | none => rfl
  | some c =>
    change (Option.filter (fun c => c.meets g.matchValue e) (some c)).isSome =
      c.meets g.matchValue e
    cases hmeets : c.meets g.matchValue e <;> simp [Option.filter_some, hmeets]

theorem fires_iff : g.fires e = true ↔ ∃ c, Criterion.parse g.goalType = some c ∧
    c.accepts e.kind e.eventName e.path g.matchValue = true := by
  rw [fires_eq, Option.any_eq_true]
  rfl

end Goal

/-- **Every goal that fires is told to every subscriber**, and no other goal is. -/
theorem length_goalJobs (stamp : Stamp) (hooks : List Webhook) (goals : List Goal) (e : Event) :
    (goalJobs stamp hooks goals e.sighting).length =
      goals.countP (fun g => g.fires e) * hooks.length := by
  have hmet : ((goals.filterMap fun g => (g.metBy e.sighting).map fun c =>
      goalData g c e.sighting).zipIdx).length = goals.countP fun g => g.fires e := by
    rw [List.length_zipIdx, List.length_filterMap_eq_countP]
    simp only [Option.isSome_map, Goal.fires]
  rw [goalJobs, List.length_flatMap]
  simp [List.map_const', hmet]

/-! ## Conversions -/

/-- An event that meets a criterion also meets it if a path may be that of any event. -/
theorem Criterion.meetsLoosely_of_meets {c : Criterion} {value : String} {e : Event}
    (h : c.meets value e = true) : c.meetsLoosely value e = true := by
  cases c with
  | url => exact (Bool.and_eq_true_iff.1 h).2
  | event => exact h

namespace Goal

variable {g : Goal} {e : Event}

/-- The sessions with an event that meets the goal, if a path may be that of any event. -/
def converted (g : Goal) (events : List Event) : Finset String :=
  sessionsWith events fun e => g.criterion.any fun c => c.meetsLoosely g.matchValue e

theorem conversions_eq_card {α : Type} [Scalar α] (g : Goal) (events : List Event) :
    (conversions g.goalType g.matchValue events : Conversions α).conversions =
      (g.converted events).card := by
  rw [conversions, converted, criterion]
  cases Criterion.parse g.goalType with
  | none => simp
  | some c => simp only [countP_group_any, Option.any_some]

/-- **A session in which the goal fires is counted.** -/
theorem sessionsWith_fires_subset (g : Goal) (events : List Event) :
    sessionsWith events g.fires ⊆ g.converted events := by
  refine sessionsWith_subset fun e hfires => ?_
  rw [fires_eq, Option.any_eq_true] at hfires
  obtain ⟨c, hc, hmeets⟩ := hfires
  exact (Option.any_eq_true _ _).2 ⟨c, hc, Criterion.meetsLoosely_of_meets hmeets⟩

theorem converted_of_event (hg : Criterion.parse g.goalType = some .event) :
    g.converted events = sessionsWith events g.fires := by
  refine sessionsWith_congr fun e _ => ?_
  rw [fires_eq, criterion, hg]
  rfl

theorem converted_of_untyped (hg : Criterion.parse g.goalType = none) :
    g.converted events = ∅ := by
  simp [converted, criterion, hg]

end Goal

/-! ## Funnels of one step -/

theorem canTake_singleton {start : Timestamp} {step : FunnelStep} :
    CanTake events start [step] id ↔
      ∃ e ∈ events, (start ≤ e.createdAt ∧ step.takenBy e = true) ∧ e.sessionId = id := by
  constructor
  · rintro ⟨chosen, hmem, htakes⟩
    obtain ⟨e, es, -, -, rfl⟩ := List.forall₂_cons_left_iff.1 htakes.satisfies
    obtain ⟨hstart, hstep, -⟩ := TakesFrom.cons_iff.1 htakes
    obtain ⟨he, hid⟩ := hmem e List.mem_cons_self
    exact ⟨e, he, ⟨by simpa using hstart, FunnelStep.takenBy_iff.2 hstep⟩, hid⟩
  · rintro ⟨e, he, ⟨hstart, hstep⟩, hid⟩
    refine ⟨[e], by simp [he, hid], TakesFrom.cons_iff.2 ⟨by simpa using hstart, ?_, .nil _⟩⟩
    exact FunnelStep.takenBy_iff.1 hstep

theorem takers_singleton (events : List Event) (start : Timestamp) (step : FunnelStep) :
    takers events start [step] =
      (sessionsWith events fun e => decide (start ≤ e.createdAt) && step.takenBy e).card := by
  classical
  rw [takers]
  congr 1
  ext id
  simp only [Finset.mem_filter, List.mem_toFinset, List.mem_map, canTake_singleton,
    mem_sessionsWith, Bool.and_eq_true, decide_eq_true_eq]
  constructor
  · exact fun h => h.2
  · rintro ⟨e, he, htakes, hid⟩
    exact ⟨⟨e, he, hid⟩, e, he, htakes, hid⟩

/-- **A funnel of one step** is passed by the sessions with an event that takes the step and is not
before the start of the range. -/
theorem Funnel.analyze_singleton {α : Type} [Scalar α] {f : Funnel} {step : FunnelStep}
    (hf : f.steps = [step]) (events : List Event) (start : Timestamp) :
    (f.analyze events start : FunnelAnalysis α).steps.map (·.sessions) =
      [(sessionsWith events fun e => decide (start ≤ e.createdAt) && step.takenBy e).card] := by
  have hordered : f.ordered = [step] := by
    rw [ordered, hf]
    exact sortBy_of_pairwise (List.pairwise_singleton _ _)
  have hreached : reached (walks events start [step]) 0 = takers events start [step] :=
    reached_walks events start [step] Nat.zero_lt_one
  rw [analyze_steps, hordered, ← takers_singleton, ← hreached]
  rfl

/-! ## The agreement -/

namespace Goal

/-- What is counted of a goal agrees with the events for which it fires. -/
structure Agrees (g : Goal) (events : List Event) (conversions : ℕ) : Prop where
  /-- The conversions are sessions, and those in which the goal fires are among them. -/
  counted : conversions = (g.converted events).card ∧
    sessionsWith events g.fires ⊆ g.converted events
  /-- There are at least as many conversions, whatever the type of the goal is. -/
  card_le : (sessionsWith events g.fires).card ≤ conversions
  /-- For a goal on custom events there are no others. -/
  ofEvent : Criterion.parse g.goalType = some .event →
    conversions = (sessionsWith events g.fires).card
  /-- A goal whose type names no criterion never fires and counts nothing. -/
  ofUntyped : Criterion.parse g.goalType = none →
    conversions = 0 ∧ (sessionsWith events g.fires).card = 0

theorem agrees_conversions {α : Type} [Scalar α] (g : Goal) (events : List Event) :
    g.Agrees events (conversions g.goalType g.matchValue events : Conversions α).conversions where
  counted := ⟨g.conversions_eq_card events, g.sessionsWith_fires_subset events⟩
  card_le := by
    rw [g.conversions_eq_card]
    exact Finset.card_le_card (g.sessionsWith_fires_subset events)
  ofEvent hg := by rw [g.conversions_eq_card, converted_of_event hg]
  ofUntyped hg := by
    have hnone := g.sessionsWith_fires_subset events
    rw [converted_of_untyped hg, Finset.subset_empty] at hnone
    rw [g.conversions_eq_card, converted_of_untyped hg, hnone]
    exact ⟨rfl, rfl⟩

theorem takenBy_eq_fires {g : Goal} {step : FunnelStep} (htype : step.stepType = g.goalType)
    (hvalue : step.matchValue = g.matchValue) (e : Event) : step.takenBy e = g.fires e := by
  rw [FunnelStep.takenBy, htype, hvalue, fires_eq, criterion]
  cases Criterion.parse g.goalType <;> rfl

/-- **Webhooks, conversions and funnels agree on a goal.** Let a goal fire for the events that the
watcher tells its subscribers of, which are those that meet the criterion that its type names.

* Every session in which the goal fires counts as a conversion. Those of a goal on custom events
  are no others, and a goal whose type names no criterion has neither.
* A funnel whose only step has the type and the value of the goal, over a range that starts before
  all events, is passed by exactly the sessions in which the goal fires. -/
theorem webhooks_conversions_funnels_agree {α : Type} [Scalar α] (g : Goal)
    (events : List Event) :
    (∀ (stamp : Stamp) (hooks : List Webhook) (e : Event),
      (goalJobs stamp hooks [g] e.sighting).length = if g.fires e then hooks.length else 0) ∧
    (∀ e, g.fires e = true ↔ ∃ c, Criterion.parse g.goalType = some c ∧
      c.accepts e.kind e.eventName e.path g.matchValue = true) ∧
    g.Agrees events (conversions g.goalType g.matchValue events : Conversions α).conversions ∧
    ∀ (f : Funnel) (step : FunnelStep) (start : Timestamp), f.steps = [step] →
      step.stepType = g.goalType → step.matchValue = g.matchValue →
      (∀ e ∈ events, start ≤ e.createdAt) →
        (f.analyze events start : FunnelAnalysis α).steps.map (·.sessions) =
          [(sessionsWith events g.fires).card] := by
  refine ⟨fun stamp hooks e => ?_, fun e => fires_iff, g.agrees_conversions events,
    fun f step start hf htype hvalue hstart => ?_⟩
  · rw [length_goalJobs]
    cases hfires : g.fires e <;> simp [hfires]
  · rw [Funnel.analyze_singleton hf]
    refine congrArg (fun s => [s.card]) (sessionsWith_congr fun e he => ?_)
    rw [takenBy_eq_fires htype hvalue, decide_eq_true (hstart e he), Bool.true_and]

/-- A goal on a page that one session viewed and another only scrolled: the scroll is a conversion,
but it neither fires the goal nor takes the step of a funnel. -/
theorem scrolled_page_only_converts :
    let event (kind : EventKind) (session : String) (seconds : Int) : Event :=
      Event.bare "shop" kind "/pricing" session "visitor" ⟨seconds, 0⟩
    let events := [event .pageview "a" 10, event .scroll "b" 20]
    let goal : Goal := ⟨"g", "shop", "pricing", "url", "/pricing", true⟩
    let step : FunnelStep := ⟨"", 1, "url", "/pricing", "pricing"⟩
    let funnel : Funnel := ⟨"f", "shop", "pricing", [step]⟩
    (∀ e ∈ events, (⟨10, 0⟩ : Timestamp) ≤ e.createdAt) ∧
      (funnel.analyze events ⟨10, 0⟩ : FunnelAnalysis ℚ).steps.map (·.sessions) = [1] ∧
      (Goal.conversions goal.goalType goal.matchValue events : Conversions ℚ).conversions = 2 := by
  intro event events goal step funnel
  have hstart : ∀ e ∈ events, (⟨10, 0⟩ : Timestamp) ≤ e.createdAt := by decide
  have hfires : (sessionsWith events goal.fires).card = 1 := by decide
  have hconverted : (goal.converted events).card = 2 := by decide
  obtain ⟨-, -, hagrees, hfunnel⟩ :=
    goal.webhooks_conversions_funnels_agree (α := ℚ) events
  have hsteps := hfunnel funnel step ⟨10, 0⟩ rfl rfl rfl hstart
  exact ⟨hstart, hfires ▸ hsteps, hagrees.counted.1.trans hconverted⟩

end Goal

end Footfall
