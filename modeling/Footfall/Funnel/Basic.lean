import Footfall.Goal.Basic

/-!
# Funnels

A funnel is a sequence of steps that sessions are expected to take. Its steps are ordered by their
numbers, equal numbers keeping the given order.
-/

namespace Footfall

/-- A step of a funnel. -/
structure FunnelStep where
  /-- Assigned by the store. -/
  id : String := ""
  number : Nat
  /-- The name of a criterion, as it was given. -/
  stepType : String
  matchValue : String
  label : String
  deriving DecidableEq, Repr

/-- Does an event take the step? A step whose type names no criterion is never taken. -/
def FunnelStep.takenBy (s : FunnelStep) (e : Event) : Bool :=
  match Criterion.parse s.stepType with
  | some c => c.meets s.matchValue e
  | none => false

/-- A funnel of a project. -/
structure Funnel where
  id : String
  projectId : String
  name : String
  steps : List FunnelStep
  deriving DecidableEq, Repr

/-- The steps in the order of their numbers. -/
def Funnel.ordered (f : Funnel) : List FunnelStep := sortBy FunnelStep.number f.steps

end Footfall
