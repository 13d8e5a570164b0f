import Footfall.Funnel.Basic
import Footfall.Json.Value
import Footfall.Project

/-!
# What is configured, as JSON

Goals and funnels in the form in which the command line prints them.
-/

namespace Footfall

/-- A goal as JSON. -/
def Goal.toJson (g : Goal) : Json.Value :=
  .ofFields
    [ ("id", .string g.id),
      ("project_id", .string g.projectId),
      ("name", .string g.name),
      ("goal_type", .string g.goalType),
      ("match_value", .string g.matchValue),
      ("active", .bool g.active) ]

/-- A step of a funnel as JSON. -/
def FunnelStep.toJson (funnelId : String) (s : FunnelStep) : Json.Value :=
  .ofFields
    [ ("id", .string s.id),
      ("funnel_id", .string funnelId),
      ("step_number", .int s.number),
      ("step_type", .string s.stepType),
      ("match_value", .string s.matchValue),
      ("label", .string s.label) ]

/-- A funnel as JSON. -/
def Funnel.toJson (f : Funnel) : Json.Value :=
  .ofFields
    [ ("id", .string f.id),
      ("project_id", .string f.projectId),
      ("name", .string f.name),
      ("steps", .array (f.steps.map (FunnelStep.toJson f.id))) ]

end Footfall
