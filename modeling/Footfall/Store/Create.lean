import Footfall.Store.Basic

/-!
# Creating rows

New rows are numbered within their table, and the number is part of their identifier. A row is
created as it is given: whether it may be is checked before (`Store.checkProject` and the like).
-/

namespace Footfall.Store

/-- The identifier of the row that follows a number of rows. -/
def nextId (kind : String) (rows : Nat) : String := kind ++ "_" ++ toString (rows + 1)

/-- When created rows say that they were created. -/
def creationTime : String := "2026-01-01 00:00:00"

/-- Run an operation on a part that works. -/
def modifying {α : Type} (s : Store) (part : StorePart) (value : α) (next : Store) :
    Except StoreFailure α × Store :=
  if s.failing.contains part then (.error ⟨⟩, s) else (.ok value, next)

/-- Create a project. -/
def createProject (s : Store) (name domain : String) (reportEmail : Option String) :
    Except StoreFailure Project × Store :=
  let n := s.projects.length
  let p : Project :=
    { id := nextId "proj" n, name, domain, apiKey := nextId "sl" n, reportEmail
      createdAt := creationTime }
  s.modifying .projects p { s with projects := s.projects ++ [p] }

/-- Create a goal. -/
def createGoal (s : Store) (projectId name goalType matchValue : String) :
    Except StoreFailure Goal × Store :=
  let g : Goal :=
    { id := nextId "goal" s.goals.length, projectId, name, goalType, matchValue, active := true }
  s.modifying .goals g { s with goals := s.goals ++ [g] }

/-- The steps of a new funnel, each labelled by its value. -/
def newSteps (steps : List (String × String)) : List FunnelStep :=
  steps.zipIdx.map fun ((stepType, matchValue), k) =>
    { id := nextId "step" k, number := k + 1, stepType, matchValue, label := matchValue }

/-- Create a funnel with steps given by type and value. -/
def createFunnel (s : Store) (projectId name : String) (steps : List (String × String)) :
    Except StoreFailure Funnel × Store :=
  let f : Funnel :=
    { id := nextId "funnel" s.funnels.length, projectId, name, steps := newSteps steps }
  s.modifying .funnels f { s with funnels := s.funnels ++ [f] }

/-- Create a webhook, which is active. -/
def createWebhook (s : Store) (projectId url secret : String) (topics : List Topic) :
    Except StoreFailure Webhook × Store :=
  let w : Webhook :=
    { id := nextId "hook" s.webhooks.length, projectId, url, secret, topics, active := true }
  s.modifying .webhooks w { s with webhooks := s.webhooks ++ [w] }

/-- Add a row to the audit. -/
def recordDelivery (s : Store) (d : Delivery) : Except StoreFailure Unit × Store :=
  let r : DeliveryRecord := ⟨nextId "dlv" s.deliveries.length, d, creationTime⟩
  s.modifying .deliveries () { s with deliveries := s.deliveries ++ [r] }

/-- The audit of a webhook. -/
def deliveriesOf (s : Store) (webhookId : String) : Except StoreFailure (List DeliveryRecord) :=
  s.guarded .deliveries (s.deliveries.filter fun r => r.delivery.webhookId == webhookId)

end Footfall.Store
