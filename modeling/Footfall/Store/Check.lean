import Footfall.Store.Create
import Footfall.Text.Blank
import Footfall.Text.Split

/-!
# Rows that are refused

A name and a value must not be blank, a project has a limited number of goals and a funnel a limited
number of steps, and a webhook goes to a web address and is to be told of something. These checks
are made before a row is created; creating it makes none.

* `RowError` is why a row is refused.
* `Store.checkProject`, `Store.checkGoal`, `Store.checkFunnel` and `Store.checkWebhook` find what is
  wrong with a row, if anything. Of several things, the first is reported.
-/

namespace Footfall

/-- Why a row is refused. -/
inductive RowError where
  /-- The name or the domain of a project is blank. -/
  | blankProject
  | blankGoalName
  | blankGoalValue
  | tooManyGoals
  | blankFunnelName
  | tooManySteps
  | blankStepValue
  | noTopic
  /-- The address of a webhook is not one of the web. -/
  | notOfWeb
  deriving DecidableEq, Repr

namespace Store

/-- The most goals of a project. -/
def maxGoals : Nat := 50

/-- The most steps of a funnel. -/
def maxSteps : Nat := 8

end Store

/-- The wording of an error. -/
def RowError.message : RowError → String
  | .blankProject => "project name and domain are required"
  | .blankGoalName => "goal name is required"
  | .blankGoalValue => "goal match_value is required"
  | .tooManyGoals => "limit_exceeded"
  | .blankFunnelName => "funnel name is required"
  | .tooManySteps => "a funnel has at most " ++ toString Store.maxSteps ++ " steps"
  | .blankStepValue => "step match_value is required"
  | .noTopic => "webhook must subscribe to at least one event"
  | .notOfWeb => "webhook url must be http(s)"

namespace Store

/-- Refuse a row for a reason. -/
def refuseIf (condition : Bool) (reason : RowError) : Except RowError Unit :=
  if condition then .error reason else .ok ()

/-- What is wrong with a new project, if anything. -/
def checkProject (name domain : String) : Except RowError Unit :=
  refuseIf (Text.isBlankText name || Text.isBlankText domain) .blankProject

/-- What is wrong with a new goal of a project, if anything. -/
def checkGoal (s : Store) (projectId name matchValue : String) : Except RowError Unit := do
  refuseIf (Text.isBlankText name) .blankGoalName
  refuseIf (Text.isBlankText matchValue) .blankGoalValue
  refuseIf (decide (maxGoals ≤ s.goals.countP fun g => g.projectId == projectId)) .tooManyGoals

/-- What is wrong with a new funnel with steps given by type and value, if anything. -/
def checkFunnel (name : String) (steps : List (String × String)) : Except RowError Unit := do
  refuseIf (Text.isBlankText name) .blankFunnelName
  refuseIf (decide (maxSteps < steps.length)) .tooManySteps
  refuseIf (steps.any fun step => Text.isBlankText step.2) .blankStepValue

/-- Does an address start as those of the web do? -/
def isOfWeb (url : String) : Bool :=
  (Text.strip? "http://".toList url.toList).isSome ||
    (Text.strip? "https://".toList url.toList).isSome

/-- What is wrong with a new webhook, if anything. -/
def checkWebhook (url : String) (topics : List Topic) : Except RowError Unit := do
  refuseIf topics.isEmpty .noTopic
  refuseIf (!isOfWeb url) .notOfWeb

end Store

end Footfall
