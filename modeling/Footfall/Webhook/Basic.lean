import Footfall.Json.Value
import Footfall.Webhook.Topic

/-!
# Webhooks

A webhook is an address that a project wants to be told at about some topics. Its secret signs
what is sent there and is never part of what is shown of it.
-/

namespace Footfall

/-- A webhook of a project. -/
structure Webhook where
  id : String
  projectId : String
  url : String
  /-- The key that signs what is sent. -/
  secret : String
  topics : List Topic
  active : Bool
  deriving DecidableEq, Repr

namespace Webhook

/-- Is the webhook to be told about a topic? -/
def subscribesTo (w : Webhook) (topic : Topic) : Bool := w.active && w.topics.contains topic

/-- The webhooks of a list that are to be told about a topic. -/
def subscribers (hooks : List Webhook) (topic : Topic) : List Webhook :=
  hooks.filter fun w => w.subscribesTo topic

/-- The names of the topics of a webhook as JSON. -/
def topicsJson (w : Webhook) : Json.Value := .array (w.topics.map fun t => .string t.name)

/-- What is shown of a webhook. -/
def toJson (w : Webhook) : Json.Value :=
  .ofFields
    [ ("id", .string w.id),
      ("project_id", .string w.projectId),
      ("url", .string w.url),
      ("events", w.topicsJson),
      ("active", .bool w.active) ]

end Webhook

end Footfall
