import Mathlib.Data.List.Basic
import Footfall.Admin.Run
import Footfall.Proofs.Except

/-!
# Commands keep the tables well-formed

A row is created only if it is not refused, so the tables hold no row that would be
(`Store.WellFormed`): names and values are not blank, no project has more goals than it may have,
the steps of a funnel are few and numbered from one, and every webhook goes to a web address and is
told of something. A command keeps them so (`Store.WellFormed.execute`), and hence all commands of a
history (`Store.WellFormed.executeAll`). A command that fails changes nothing
(`Admin.Command.execute_of_error`).
-/

namespace Footfall

namespace Store

variable {s : Store} {projectId name domain matchValue url : String}
  {steps : List (String × String)} {topics : List Topic}

/-! ## Checks -/

theorem refuseIf_eq_ok_iff {condition : Bool} {reason : RowError} {u : Unit} :
    refuseIf condition reason = .ok u ↔ condition = false := by
  cases condition <;> simp [refuseIf]

theorem checkProject_eq_ok_iff : checkProject name domain = .ok () ↔
    Text.isBlankText name = false ∧ Text.isBlankText domain = false := by
  rw [checkProject, refuseIf_eq_ok_iff, Bool.or_eq_false_iff]

theorem checkGoal_eq_ok_iff : s.checkGoal projectId name matchValue = .ok () ↔
    Text.isBlankText name = false ∧ Text.isBlankText matchValue = false ∧
      s.goals.countP (fun g => g.projectId == projectId) < maxGoals := by
  simp only [checkGoal, bind_eq_ok_iff, refuseIf_eq_ok_iff, exists_const, decide_eq_false_iff_not,
    Nat.not_le]

theorem checkFunnel_eq_ok_iff : checkFunnel name steps = .ok () ↔
    Text.isBlankText name = false ∧ steps.length ≤ maxSteps ∧
      ∀ step ∈ steps, Text.isBlankText step.2 = false := by
  simp only [checkFunnel, bind_eq_ok_iff, refuseIf_eq_ok_iff, exists_const,
    decide_eq_false_iff_not, Nat.not_lt, List.any_eq_false, Bool.not_eq_true]

theorem checkWebhook_eq_ok_iff :
    checkWebhook url topics = .ok () ↔ topics ≠ [] ∧ isOfWeb url = true := by
  simp only [checkWebhook, bind_eq_ok_iff, refuseIf_eq_ok_iff, exists_const, Bool.not_eq_false',
    List.isEmpty_eq_false_iff]

/-! ## New rows -/

theorem number_newSteps (steps : List (String × String)) :
    (newSteps steps).map FunnelStep.number = List.range' 1 steps.length := by
  have hnumbers := congrArg (List.map (1 + ·)) (List.zipIdx_map_snd 0 steps)
  rw [List.map_add_range', List.map_map] at hnumbers
  rw [newSteps, List.map_map, ← hnumbers]
  exact List.map_congr_left fun step _ => Nat.add_comm ..

theorem matchValue_newSteps (steps : List (String × String)) :
    (newSteps steps).map FunnelStep.matchValue = steps.map Prod.snd := by
  have hvalues := congrArg (List.map Prod.snd) (List.zipIdx_map_fst 0 steps)
  rw [List.map_map] at hvalues
  rw [newSteps, List.map_map, ← hvalues]
  rfl

/-- The part works and the operation is done, or nothing is. -/
theorem modifying_cases {α : Type} (s : Store) (part : StorePart) (value : α) (next : Store) :
    s.modifying part value next = (.error ⟨⟩, s) ∨
      s.modifying part value next = (.ok value, next) := by
  rw [modifying]
  split_ifs
  · exact .inl rfl
  · exact .inr rfl

theorem modifying_of_error {α β : Type} {part : StorePart} {value : α} {next : Store} {g : α → β}
    {f : StoreFailure} (h : (s.modifying part value next).1.map g = .error f) :
    (s.modifying part value next).2 = s := by
  rcases s.modifying_cases part value next with heq | heq
  · rw [heq]
  · rw [heq] at h
    cases h

end Store

/-! ## Well-formed tables -/

/-- A funnel that may be there: it has a name and few steps, which have values and are numbered from
one. -/
structure Funnel.WellFormed (f : Funnel) : Prop where
  name : Text.isBlankText f.name = false
  length_le : f.steps.length ≤ Store.maxSteps
  values : ∀ step ∈ f.steps, Text.isBlankText step.matchValue = false
  numbers : f.steps.map FunnelStep.number = List.range' 1 f.steps.length

namespace Store

/-- Tables that hold no row that would be refused. -/
structure WellFormed (s : Store) : Prop where
  project : ∀ p ∈ s.projects,
    Text.isBlankText p.name = false ∧ Text.isBlankText p.domain = false
  goal : ∀ g ∈ s.goals, Text.isBlankText g.name = false ∧ Text.isBlankText g.matchValue = false
  goals_le : ∀ id, s.goals.countP (fun g => g.projectId == id) ≤ maxGoals
  funnel : ∀ f ∈ s.funnels, f.WellFormed
  webhook : ∀ w ∈ s.webhooks, w.topics ≠ [] ∧ isOfWeb w.url = true

/-- The tables of a new store are empty. -/
theorem wellFormed_empty : ({} : Store).WellFormed where
  project := by simp
  goal := by simp
  goals_le := by simp
  funnel := by simp
  webhook := by simp

namespace WellFormed

variable {s : Store} {projectId name domain goalType matchValue url secret : String}
  {reportEmail : Option String} {steps : List (String × String)} {topics : List Topic}

theorem modifying {α : Type} {part : StorePart} {value : α} {next : Store} (h : s.WellFormed)
    (hnext : next.WellFormed) : (s.modifying part value next).2.WellFormed := by
  rcases s.modifying_cases part value next with heq | heq
  · rwa [heq]
  · rwa [heq]

theorem createProject (h : s.WellFormed) (hcheck : checkProject name domain = .ok ()) :
    (s.createProject name domain reportEmail).2.WellFormed :=
  h.modifying
    { h with
      project := List.forall_mem_append.2
        ⟨h.project, List.forall_mem_singleton.2 (checkProject_eq_ok_iff.1 hcheck)⟩ }

theorem createGoal (h : s.WellFormed) (hcheck : s.checkGoal projectId name matchValue = .ok ()) :
    (s.createGoal projectId name goalType matchValue).2.WellFormed := by
  obtain ⟨hname, hvalue, hroom⟩ := checkGoal_eq_ok_iff.1 hcheck
  refine h.modifying
    { h with
      goal := List.forall_mem_append.2 ⟨h.goal, List.forall_mem_singleton.2 ⟨hname, hvalue⟩⟩
      goals_le := fun id => ?_ }
  rw [List.countP_append, List.countP_singleton]
  split_ifs with hid
  · -- only the goals of the project itself become more
    obtain rfl := beq_iff_eq.1 hid
    exact hroom
  · exact h.goals_le id

theorem createFunnel (h : s.WellFormed) (hcheck : checkFunnel name steps = .ok ()) :
    (s.createFunnel projectId name steps).2.WellFormed := by
  obtain ⟨hname, hfew, hvalues⟩ := checkFunnel_eq_ok_iff.1 hcheck
  have hlength : (newSteps steps).length = steps.length := by simp [newSteps]
  have hnew : ∀ v ∈ (newSteps steps).map FunnelStep.matchValue, Text.isBlankText v = false := by
    rw [matchValue_newSteps]
    exact List.forall_mem_map.2 hvalues
  refine h.modifying
    { h with
      funnel := List.forall_mem_append.2 ⟨h.funnel, List.forall_mem_singleton.2 ?_⟩ }
  exact ⟨hname, hlength ▸ hfew, List.forall_mem_map.1 hnew, hlength ▸ number_newSteps steps⟩

theorem createWebhook (h : s.WellFormed) (hcheck : checkWebhook url topics = .ok ()) :
    (s.createWebhook projectId url secret topics).2.WellFormed :=
  h.modifying
    { h with
      webhook := List.forall_mem_append.2
        ⟨h.webhook, List.forall_mem_singleton.2 (checkWebhook_eq_ok_iff.1 hcheck)⟩ }

end WellFormed

end Store

/-! ## Commands -/

namespace Admin

variable {s : Store}

/-- The store after a list of commands. -/
def executeAll (s : Store) (commands : List Command) : Store :=
  commands.foldl (fun s c => (c.execute s).2) s

namespace Command

variable {c : Command}

theorem apply_of_error {f : StoreFailure} (h : (c.apply s).1 = .error f) : (c.apply s).2 = s := by
  cases c with
  | listProjects => rfl
  | createProject name domain reportEmail => exact Store.modifying_of_error h
  | createGoal projectId name goalType matchValue => exact Store.modifying_of_error h
  | createFunnel projectId name steps => exact Store.modifying_of_error h
  | createWebhook projectId url secret topics => exact Store.modifying_of_error h

/-- **A command that fails changes nothing**, whether its row is refused or the store is out of
order. -/
theorem execute_of_error {f : Failure} (h : (c.execute s).1 = .error f) :
    (c.execute s).2 = s := by
  rw [execute] at h ⊢
  cases hcheck : c.check s with
  | error e => rfl
  | ok u =>
    rw [hcheck] at h
    cases hresult : (c.apply s).1 with
    | error e => exact apply_of_error hresult
    | ok v => simp [run, hresult, Except.map, Except.mapError] at h

end Command

theorem wellFormed_execute (h : s.WellFormed) (c : Command) : (c.execute s).2.WellFormed := by
  rw [Command.execute]
  cases hcheck : c.check s with
  | error e => exact h
  | ok u =>
    cases c with
    | createProject name domain reportEmail => exact h.createProject hcheck
    | listProjects => exact h
    | createGoal projectId name goalType matchValue => exact h.createGoal hcheck
    | createFunnel projectId name steps => exact h.createFunnel hcheck
    | createWebhook projectId url secret topics => exact h.createWebhook hcheck

/-- **The tables stay well-formed** whatever commands are given. -/
theorem wellFormed_executeAll (h : s.WellFormed) (commands : List Command) :
    (executeAll s commands).WellFormed := by
  induction commands generalizing s with
  | nil => exact h
  | cons c rest ih => exact ih (wellFormed_execute h c)

end Admin

end Footfall
