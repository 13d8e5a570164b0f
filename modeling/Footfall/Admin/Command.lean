import Footfall.Text.Quoted
import Footfall.Text.Split
import Footfall.Webhook.Topic

/-!
# Administrative commands

The words of a command line that configure the service:

    project create <name> <domain> [report-email]
    project list
    goal create <project-id> <name> <url|event> <match-value>
    funnel create <project-id> <name> <type:value>...
    webhook create <project-id> <url> <secret> <event[,event]>

Words that start otherwise are no administrative command. `Command.parse` tells these apart from
commands that are wrong.
-/

namespace Footfall.Admin

/-- A command that configures the service. -/
inductive Command where
  | createProject (name domain : String) (reportEmail : Option String)
  | listProjects
  | createGoal (projectId name goalType matchValue : String)
  /-- The steps are pairs of type and value. -/
  | createFunnel (projectId name : String) (steps : List (String × String))
  | createWebhook (projectId url secret : String) (topics : List Topic)
  deriving DecidableEq, Repr

/-- What is wrong with a command. -/
inductive CommandError where
  /-- The command starts with a known word and does not go on in a known way. -/
  | unrecognised (first : String)
  | stepWithoutValue (step : String)
  | noKnownTopic
  deriving DecidableEq, Repr

/-- The wording of an error. -/
def CommandError.message : CommandError → String
  | .unrecognised first => "unrecognised " ++ first ++ " command; see \x60sightline help\x60"
  | .stepWithoutValue step => "funnel step " ++ Text.quoted step ++ " must be <type>:<value>"
  | .noKnownTopic => "webhook needs at least one of goal_conversion, traffic_spike"

/-- The words that start administrative commands. -/
def firstWords : List String := ["project", "goal", "funnel", "webhook"]

/-- A step of a funnel: its type and its value, which follows the first colon. -/
def parseStep (word : String) : Except CommandError (String × String) :=
  match Text.splitOnce ':' word.toList with
  | some (stepType, value) => .ok (String.ofList stepType, String.ofList value)
  | none => .error (.stepWithoutValue word)

/-- The steps of a funnel. The first wrong one is reported. -/
def parseSteps : List String → Except CommandError (List (String × String))
  | [] => .ok []
  | word :: rest => do
    let step ← parseStep word
    let steps ← parseSteps rest
    return step :: steps

/-- The known topics of a list, of which there has to be one. -/
def parseTopics (raw : String) : Except CommandError (List Topic) :=
  match Topic.parseList raw with
  | [] => .error .noKnownTopic
  | topics => .ok topics

/-- The command that words make, absent when they are no administrative command. -/
def Command.parse (words : List String) : Except CommandError (Option Command) :=
  match words with
  | ["project", "create", name, domain] => .ok (some (.createProject name domain none))
  | ["project", "create", name, domain, email] =>
    .ok (some (.createProject name domain (some email)))
  | ["project", "list"] => .ok (some .listProjects)
  | ["goal", "create", projectId, name, goalType, matchValue] =>
    .ok (some (.createGoal projectId name goalType matchValue))
  | "funnel" :: "create" :: projectId :: name :: step :: steps =>
    (parseSteps (step :: steps)).map fun steps => some (.createFunnel projectId name steps)
  | ["webhook", "create", projectId, url, secret, topics] =>
    (parseTopics topics).map fun topics => some (.createWebhook projectId url secret topics)
  | first :: _ =>
    if firstWords.contains first then .error (.unrecognised first) else .ok none
  | [] => .ok none

end Footfall.Admin
