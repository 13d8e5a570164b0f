import Mathlib.Data.List.Forall2
import Footfall.Admin.Command
import Footfall.Proofs.Except
import Footfall.Proofs.Text.Split
import Footfall.Proofs.Webhook.Topic

/-!
# Which words are a command

Words have one of the six forms of a command (`HasForm`), or they only start like one
(`StartsCommand`), or they have nothing to do with commands. Reading tells the three apart
(`Command.parse_cases`): it gives a command that carries the words as they stand
(`Command.Carries`), or an error, or nothing.
-/

namespace Footfall.Admin

/-! ## Steps and topics -/

/-- A word is the type of a step and its value with a colon between them. The type has no colon. -/
structure IsStep (word : String) (step : String × String) : Prop where
  word_eq : step.1 ++ ":" ++ step.2 = word
  colon_notMem : ':' ∉ step.1.toList

theorem isStep_iff {word : String} {step : String × String} :
    IsStep word step ↔
      Text.splitOnce ':' word.toList = some (step.1.toList, step.2.toList) := by
  have hword : step.1 ++ ":" ++ step.2 = word ↔
      word.toList = step.1.toList ++ ':' :: step.2.toList := by
    rw [← String.toList_inj, eq_comm]
    simp
  rw [Text.splitOnce_eq_some_iff, ← hword]
  exact ⟨fun h => ⟨h.1, h.2⟩, fun h => ⟨h.1, h.2⟩⟩

theorem parseStep_eq_ok_iff {word : String} {step : String × String} :
    parseStep word = .ok step ↔ IsStep word step := by
  rw [parseStep, isStep_iff]
  cases hsplit : Text.splitOnce ':' word.toList with
  | none => simp
  | some parts =>
    obtain ⟨stepType, value⟩ := parts
    obtain ⟨givenType, givenValue⟩ := step
    simp [String.ext_iff]

theorem exists_isStep_iff {word : String} : (∃ step, IsStep word step) ↔ ':' ∈ word.toList := by
  constructor
  · rintro ⟨step, hstep⟩
    rw [← hstep.word_eq]
    simp
  · intro h
    obtain ⟨before, after, hword, hbefore⟩ := List.eq_append_cons_of_mem h
    refine ⟨(String.ofList before, String.ofList after), isStep_iff.2 ?_⟩
    rw [hword, Text.splitOnce_append hbefore, String.toList_ofList, String.toList_ofList]

/-- The steps are as many as the words, in the same order. -/
theorem parseSteps_eq_ok_iff {words : List String} {steps : List (String × String)} :
    parseSteps words = .ok steps ↔ List.Forall₂ IsStep words steps := by
  induction words generalizing steps with
  | nil => rw [parseSteps, List.forall₂_nil_left_iff, Except.ok.injEq, eq_comm]
  | cons word rest ih =>
    simp only [parseSteps, bind_eq_ok_iff, parseStep_eq_ok_iff, ih, List.forall₂_cons_left_iff]
    constructor
    · rintro ⟨step, hstep, others, hothers, ⟨⟩⟩
      exact ⟨step, others, hstep, hothers, rfl⟩
    · rintro ⟨step, others, hstep, hothers, rfl⟩
      exact ⟨step, hstep, others, hothers, rfl⟩

theorem exists_parseSteps_iff {words : List String} :
    (∃ steps, parseSteps words = .ok steps) ↔ ∀ word ∈ words, ':' ∈ word.toList := by
  simp only [parseSteps_eq_ok_iff]
  induction words with
  | nil => simp
  | cons word rest ih =>
    rw [List.forall_mem_cons, ← ih, ← exists_isStep_iff]
    constructor
    · rintro ⟨_, hsteps⟩
      obtain ⟨step, others, hstep, hothers, -⟩ := List.forall₂_cons_left_iff.1 hsteps
      exact ⟨⟨step, hstep⟩, others, hothers⟩
    · rintro ⟨⟨step, hstep⟩, others, hothers⟩
      exact ⟨step :: others, .cons hstep hothers⟩

/-- One of the pieces of a text between its commas is the name of a topic, but for blanks. -/
def NamesTopic (raw : String) : Prop :=
  ∃ t : Topic, ∃ piece ∈ Text.split ',' raw, Text.trim piece = t.name

theorem parseList_ne_nil_iff {raw : String} : Topic.parseList raw ≠ [] ↔ NamesTopic raw := by
  constructor
  · intro h
    obtain ⟨t, ht⟩ := List.exists_mem_of_ne_nil _ h
    exact ⟨t, Topic.mem_parseList.1 ht⟩
  · rintro ⟨t, ht⟩
    exact List.ne_nil_of_mem (Topic.mem_parseList.2 ht)

theorem parseTopics_eq_ok_iff {raw : String} {topics : List Topic} :
    parseTopics raw = .ok topics ↔ Topic.parseList raw = topics ∧ NamesTopic raw := by
  rw [parseTopics, ← parseList_ne_nil_iff]
  cases Topic.parseList raw with
  | nil => simp
  | cons t ts => simp

/-! ## Forms -/

/-- The six forms of a command. Where a form leaves a place open, any word may stand, except that
the steps of a funnel have colons and that the topics of a webhook include a known one. -/
inductive HasForm : List String → Prop where
  | createProject (name domain : String) : HasForm ["project", "create", name, domain]
  | createMailedProject (name domain reportEmail : String) :
    HasForm ["project", "create", name, domain, reportEmail]
  | listProjects : HasForm ["project", "list"]
  | createGoal (projectId name goalType matchValue : String) :
    HasForm ["goal", "create", projectId, name, goalType, matchValue]
  | createFunnel (projectId name : String) {steps : List String} (ne_nil : steps ≠ [])
    (colon_mem : ∀ step ∈ steps, ':' ∈ step.toList) :
    HasForm ("funnel" :: "create" :: projectId :: name :: steps)
  | createWebhook (projectId url secret : String) {topics : String} (names : NamesTopic topics) :
    HasForm ["webhook", "create", projectId, url, secret, topics]

/-- The first word is one that commands start with. -/
def StartsCommand : List String → Prop
  | [] => False
  | first :: _ => first ∈ ["project", "goal", "funnel", "webhook"]

theorem HasForm.colon_mem {projectId name : String} {steps : List String}
    (h : HasForm ("funnel" :: "create" :: projectId :: name :: steps)) :
    ∀ step ∈ steps, ':' ∈ step.toList := by
  generalize hwords : "funnel" :: "create" :: projectId :: name :: steps = words at h
  cases h with
  | createFunnel _ _ _ hcolon =>
    simp only [List.cons.injEq, true_and] at hwords
    obtain ⟨rfl, rfl, rfl⟩ := hwords
    exact hcolon
  | _ => simp at hwords

theorem HasForm.namesTopic {projectId url secret topics : String}
    (h : HasForm ["webhook", "create", projectId, url, secret, topics]) : NamesTopic topics := by
  generalize hwords : ["webhook", "create", projectId, url, secret, topics] = words at h
  cases h with
  | createWebhook _ _ _ hnames =>
    simp only [List.cons.injEq, true_and, and_true] at hwords
    obtain ⟨rfl, rfl, rfl, rfl⟩ := hwords
    exact hnames
  | _ => simp at hwords

theorem HasForm.startsCommand {words : List String} (h : HasForm words) : StartsCommand words := by
  cases h <;> simp [StartsCommand]

/-- A command carries the words that it was read from: each in its place, the steps of a funnel word
by word, and of the topics of a webhook the known ones. -/
def Command.Carries (words : List String) : Command → Prop
  | .createProject name domain none => words = ["project", "create", name, domain]
  | .createProject name domain (some reportEmail) =>
    words = ["project", "create", name, domain, reportEmail]
  | .listProjects => words = ["project", "list"]
  | .createGoal projectId name goalType matchValue =>
    words = ["goal", "create", projectId, name, goalType, matchValue]
  | .createFunnel projectId name steps => ∃ given : List String,
    words = "funnel" :: "create" :: projectId :: name :: given ∧ List.Forall₂ IsStep given steps
  | .createWebhook projectId url secret topics => ∃ given : String,
    words = ["webhook", "create", projectId, url, secret, given] ∧ topics = Topic.parseList given

theorem Command.parse_cases (words : List String) :
    (∃ c, parse words = .ok (some c) ∧ HasForm words ∧ c.Carries words) ∨
      (∃ e, parse words = .error e ∧ StartsCommand words ∧ ¬HasForm words) ∨
      (parse words = .ok none ∧ ¬StartsCommand words) := by
  fun_cases Command.parse words with
  | case1 name domain => exact .inl ⟨_, rfl, .createProject name domain, rfl⟩
  | case2 name domain email => exact .inl ⟨_, rfl, .createMailedProject name domain email, rfl⟩
  | case3 => exact .inl ⟨_, rfl, .listProjects, rfl⟩
  | case4 projectId name goalType matchValue =>
    exact .inl ⟨_, rfl, .createGoal projectId name goalType matchValue, rfl⟩
  | case5 projectId name step steps =>
    -- the words start in the right way, and all depends on the steps
    cases hsteps : parseSteps (step :: steps) with
    | ok given =>
      have hcolon := exists_parseSteps_iff.1 ⟨given, hsteps⟩
      exact .inl ⟨_, rfl, .createFunnel projectId name (List.cons_ne_nil step steps) hcolon,
        _, rfl, parseSteps_eq_ok_iff.1 hsteps⟩
    | error e =>
      refine .inr (.inl ⟨e, rfl, by simp [StartsCommand], fun hform => ?_⟩)
      obtain ⟨given, hgiven⟩ := exists_parseSteps_iff.2 hform.colon_mem
      rw [hgiven] at hsteps
      cases hsteps
  | case6 projectId url secret topics =>
    cases htopics : parseTopics topics with
    | ok given =>
      obtain ⟨hgiven, hnames⟩ := parseTopics_eq_ok_iff.1 htopics
      exact .inl ⟨_, rfl, .createWebhook projectId url secret hnames, _, rfl, hgiven.symm⟩
    | error e =>
      refine .inr (.inl ⟨e, rfl, by simp [StartsCommand], fun hform => ?_⟩)
      rw [parseTopics_eq_ok_iff.2 ⟨rfl, hform.namesTopic⟩] at htopics
      cases htopics
  | case7 first rest hproject hmailed hlist hgoal hfunnel hwebhook hfirst =>
    -- each form would have been recognised before
    refine .inr (.inl ⟨_, rfl, by simpa [StartsCommand, firstWords] using hfirst, fun hform => ?_⟩)
    cases hform with
    | createProject name domain => exact hproject name domain rfl rfl
    | createMailedProject name domain email => exact hmailed name domain email rfl rfl
    | listProjects => exact hlist rfl rfl
    | createGoal projectId name goalType matchValue =>
      exact hgoal projectId name goalType matchValue rfl rfl
    | @createFunnel projectId name steps hne _ =>
      obtain ⟨step, others, rfl⟩ := List.exists_cons_of_ne_nil hne
      exact hfunnel projectId name step others rfl rfl
    | createWebhook projectId url secret _ => exact hwebhook projectId url secret _ rfl rfl
  | case8 first rest _ _ _ _ _ _ hfirst =>
    exact .inr (.inr ⟨rfl, by simpa [StartsCommand, firstWords] using hfirst⟩)
  | case9 => exact .inr (.inr ⟨rfl, id⟩)

/-- **Commands are read by their forms.** For every list of words:

* they are no command exactly if there are none, or the first is none of `project`, `goal`, `funnel`
  and `webhook`;
* they are read as a command exactly if they have one of the six forms;
* that command carries the words as they stand, with one step for each word of a funnel, in order;
* they are an error exactly if they start like a command and have none of the forms, so that a
  command with a mistake is never taken for something else. -/
theorem Command.parse_accepts_forms (words : List String) :
    (parse words = .ok none ↔ ¬StartsCommand words) ∧
      ((∃ c, parse words = .ok (some c)) ↔ HasForm words) ∧
      (∀ c, parse words = .ok (some c) → c.Carries words) ∧
      ((∃ e, parse words = .error e) ↔ StartsCommand words ∧ ¬HasForm words) := by
  rcases parse_cases words with
    ⟨c, hparse, hform, hcarries⟩ | ⟨e, hparse, hstarts, hform⟩ | ⟨hparse, hstarts⟩
  · simp [hparse, hform, hform.startsCommand, hcarries]
  · simp [hparse, hstarts, hform]
  · have hform : ¬HasForm words := mt HasForm.startsCommand hstarts
    simp [hparse, hstarts, hform]

/-- Of several colons the first ends the type of a step. -/
example :
    Command.parse ["funnel", "create", "p", "Signup", "url:/pricing", "event:sign:up", ":"] =
      .ok (some (.createFunnel "p" "Signup"
        [("url", "/pricing"), ("event", "sign:up"), ("", "")])) := by
  decide

end Footfall.Admin
