import Footfall.Admin.Command
import Footfall.Render.Records
import Footfall.Store.Check

/-!
# Running administrative commands

A command changes or reads the store and prints what it created or read. The secret of a webhook
is not printed.

* `Command.run` runs a command as it is.
* `Command.execute` runs it unless the row that it would create is refused (`Command.check`).
-/

namespace Footfall.Admin

/-- What is printed of a new webhook. -/
def webhookJson (w : Webhook) : Json.Value :=
  .ofFields
    [ ("id", .string w.id),
      ("project_id", .string w.projectId),
      ("url", .string w.url),
      ("events", w.topicsJson) ]

/-- Run a command. -/
def Command.apply (c : Command) (s : Store) : Except StoreFailure Json.Value × Store :=
  match c with
  | .createProject name domain reportEmail =>
    let (result, s) := s.createProject name domain reportEmail
    (result.map Project.toJson, s)
  | .listProjects => (s.allProjects.map fun ps => .array (ps.map Project.toJson), s)
  | .createGoal projectId name goalType matchValue =>
    let (result, s) := s.createGoal projectId name goalType matchValue
    (result.map Goal.toJson, s)
  | .createFunnel projectId name steps =>
    let (result, s) := s.createFunnel projectId name steps
    (result.map Funnel.toJson, s)
  | .createWebhook projectId url secret topics =>
    let (result, s) := s.createWebhook projectId url secret topics
    (result.map webhookJson, s)

/-- Run a command and give the text to print. -/
def Command.run (c : Command) (s : Store) : Except StoreFailure String × Store :=
  let (result, s) := c.apply s
  (result.map Json.indentedText, s)

/-- What is wrong with the row that a command would create, if anything. -/
def Command.check (c : Command) (s : Store) : Except RowError Unit :=
  match c with
  | .createProject name domain _ => Store.checkProject name domain
  | .listProjects => .ok ()
  | .createGoal projectId name _ matchValue => s.checkGoal projectId name matchValue
  | .createFunnel _ name steps => Store.checkFunnel name steps
  | .createWebhook _ url _ topics => Store.checkWebhook url topics

/-- Why a command fails. -/
inductive Failure where
  | ofRow (cause : RowError)
  | ofStore (cause : StoreFailure)
  deriving DecidableEq, Repr

/-- The wording of a failure. -/
def Failure.message : Failure → String
  | .ofRow cause => cause.message
  | .ofStore cause => cause.message

/-- Run a command and give the text to print, unless the row that it would create is refused. -/
def Command.execute (c : Command) (s : Store) : Except Failure String × Store :=
  match c.check s with
  | .error e => (.error (.ofRow e), s)
  | .ok () =>
    let (result, s) := c.run s
    (result.mapError .ofStore, s)

end Footfall.Admin
