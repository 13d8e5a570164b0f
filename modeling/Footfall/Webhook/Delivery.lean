import Footfall.Digest.Hmac
import Footfall.Json.Writer
import Footfall.Text.Utf8
import Footfall.Webhook.Basic

/-!
# Deliveries

A job is one payload on its way to one webhook. It is posted until a receiver accepts it, three
times at most, with a growing wait between the attempts, and every attempt leaves a row in the
audit whether or not the audit can be written.

* `signature` is the keyed digest of a payload.
* `Job.request` is what every attempt of a job sends.
* `Job.delivery` is the audit row of an attempt.
* `Job.deliver` is the loop over the attempts, for given answers of the receiver and a given way
  to write audit rows. Its result is a `DeliveryRun`: the acts of the job in order.
-/

namespace Footfall

/-- One payload bound for one webhook. -/
structure Job where
  webhookId : String
  url : String
  secret : String
  topic : Topic
  payload : Json.Value

/-- The most attempts that a job gets. -/
def maxAttempts : Nat := 3

/-- The most bytes of a receiver's answer that are kept. -/
def maxAuditBody : Nat := 1024

/-- What an audit row keeps of a text: all of it if it fits, and otherwise what stands before the
last boundary of characters that does not lie beyond the limit. -/
def truncateBody (body : String) : String :=
  if body.utf8ByteSize ≤ maxAuditBody then body
  else
    match Text.boundaryFrom? body maxAuditBody with
    | some stop => (body.sliceTo stop).copy
    -- never so, because index 0 is a boundary of every text
    | none => ""

/-- The digest of a payload under a secret, as hexadecimal digits. -/
def signature (secret payload : String) : String :=
  Digest.hex (Digest.hmac (Digest.bytesOf secret) (Digest.bytesOf payload))

/-- The header that carries the signature. -/
def signatureHeader : String := "x-sightline-signature"

/-- The header that names the topic. -/
def topicHeader : String := "x-sightline-event"

/-- What is posted to a receiver. -/
structure Post where
  url : String
  contentType : String
  signature : String
  topic : String
  body : String
  deriving DecidableEq, Repr

/-- What comes of posting. -/
inductive Reply where
  /-- The receiver answered with a status and a body; a body that cannot be read is empty. -/
  | answered (status : Nat) (body : String)
  /-- The receiver was not reached, or did not answer. -/
  | failed (reason : String)
  deriving DecidableEq, Repr

/-- Did the receiver accept? -/
def Reply.accepted : Reply → Bool
  | .answered status _ => 200 ≤ status && status < 300
  | .failed _ => false

/-- The audit row of an attempt. -/
structure Delivery where
  webhookId : String
  topic : Topic
  /-- Counted from one. -/
  attempt : Nat
  code : Option Nat
  body : Option String
  success : Bool
  error : Option String
  deriving DecidableEq, Repr

/-- An audit row as it is stored. -/
structure DeliveryRecord where
  id : String
  delivery : Delivery
  createdAt : String
  deriving DecidableEq, Repr

/-- An audit row as JSON. -/
def DeliveryRecord.toJson (r : DeliveryRecord) : Json.Value :=
  .ofFields
    [ ("id", .string r.id),
      ("webhook_id", .string r.delivery.webhookId),
      ("event_type", .string r.delivery.topic.name),
      ("attempt", .int r.delivery.attempt),
      ("response_code", (r.delivery.code.map fun n => .int n).getD .null),
      ("response_body", .ofText? r.delivery.body),
      ("success", .bool r.delivery.success),
      ("error", .ofText? r.delivery.error),
      ("created_at", .string r.createdAt) ]

namespace Job

/-- What every attempt of a job sends. -/
def request (j : Job) : Post :=
  let body := Json.compactText j.payload
  { url := j.url
    contentType := "application/json"
    signature := "sha256=" ++ Footfall.signature j.secret body
    topic := j.topic.name
    body }

/-- The audit row of an attempt. -/
def delivery (j : Job) (attempt : Nat) : Reply → Delivery
  | .answered status body =>
    { webhookId := j.webhookId, topic := j.topic, attempt
      code := some status
      body := some (truncateBody body)
      success := (Reply.answered status body).accepted
      error := none }
  | .failed reason =>
    { webhookId := j.webhookId, topic := j.topic, attempt
      code := none, body := none, success := false, error := some reason }

end Job

/-- What a job does while it is delivered. -/
inductive Job.Act where
  | sent (post : Post)
  /-- The audit was given a row to write. -/
  | offered (row : Delivery)
  | waited (time : Nat)
  deriving DecidableEq, Repr

/-- What a job has done, one thing after the other, and whether an attempt was accepted. The audit
is the state in which the rows left it. -/
structure DeliveryRun (σ : Type) where
  acts : List Job.Act
  delivered : Bool
  audit : σ

namespace Job

variable {σ ε : Type}

/-- The attempts from one on, `left` of them at most. The waits are multiples of `step`. A row that
cannot be written is lost, and the job goes on. -/
def deliverFrom (j : Job) (step : Nat) (reply : Nat → Reply)
    (write : σ → Delivery → Except ε Unit × σ) : Nat → Nat → σ → DeliveryRun σ
  | 0, _, audit => ⟨[], false, audit⟩
  | left + 1, attempt, audit =>
    let row := j.delivery attempt (reply attempt)
    let (_, audit) := write audit row
    if row.success then ⟨[.sent j.request, .offered row], true, audit⟩
    else if left = 0 then ⟨[.sent j.request, .offered row], false, audit⟩
    else
      let rest := j.deliverFrom step reply write left (attempt + 1) audit
      { rest with
        acts := .sent j.request :: .offered row :: .waited (attempt * step) :: rest.acts }

/-- Deliver a job, given the receiver's reply to each attempt. -/
def deliver (j : Job) (step : Nat) (reply : Nat → Reply)
    (write : σ → Delivery → Except ε Unit × σ) (audit : σ) : DeliveryRun σ :=
  j.deliverFrom step reply write maxAttempts 1 audit

end Job

end Footfall
