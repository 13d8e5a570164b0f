import Footfall.Event.PayloadReader
import Footfall.Http.Query
import Footfall.Service.Enrich
import Footfall.Service.Error

/-!
# Collecting events

A tracker posts one event. The gates are passed in this order: there is an API key, the client and
the key are within their limits, the key belongs to a project, the body is not too long, and it is
a valid payload. Then the event is stored, and only after that the webhooks are told; what becomes
of them does not change the answer.

* `clientAddress` and `apiKey` read a request.
* `Service.accept` is what happens behind the admission, `Service.collect` all of it.
-/

namespace Footfall

/-- The most bytes of a body. -/
def maxBodyBytes : Nat := 64 * 1024

/-- The address of a client: the first that proxies report, or that of the peer. -/
def clientAddress (r : Http.Request) : String :=
  let forwarded := (r.header? "x-forwarded-for").bind fun v =>
    Text.nonBlank (String.ofList (Text.before (· == ',') v.toList))
  (forwarded <|> r.peer.map Net.peerAddress).getD "unknown"

/-- The API key of a request: its header wins over the parameter of the query. -/
def apiKey (r : Http.Request) (fromQuery : Option String) : Option String :=
  Text.present (r.header? "x-api-key" <|> fromQuery)

/-- The name of the parameter with the API key. -/
def keyParameter : String := "api_key"

/-- The API key of a request to collect. A query that cannot be used counts as none. -/
def collectKey (r : Http.Request) : Option String :=
  apiKey r
    (match r.parameters.optional keyParameter with
      | .ok key => key
      | .error _ => none)

/-- The payload in a body. -/
def readPayload (body : String) : Except ServiceError Payload :=
  if maxBodyBytes < Text.byteLength body then .error .payloadTooLarge
  else
    match Payload.parse body with
    | none => .error (.badRequest "invalid payload")
    | some p =>
      match p.validate with
      | .error e => .error (.ofPayload e)
      | .ok () => .ok p

/-- The answer to an event that was stored. -/
def accepted : Http.Response := .json 202 (.ofFields [("ok", .bool true)])

namespace Service

/-- Store an event and run the detection for it. -/
def record (s : Service) (o : Occasion) (e : Event) : Except ServiceError Unit × Service :=
  match s.store.insert e with
  | (.error f, store) => (.error (.ofStore f), { s with store })
  | (.ok _, store) => (.ok (), (({ s with store } : Service).observe o e.sighting).2)

/-- Handle a request that was admitted under a key. -/
def accept (s : Service) (o : Occasion) (r : Http.Request) (key : String) :
    Except ServiceError Unit × Service :=
  match s.store.projectOfKey? key with
  | .error f => (.error (.ofStore f), s)
  | .ok none => (.error .unauthorized, s)
  | .ok (some project) =>
    match readPayload r.body with
    | .error e => (.error e, s)
    | .ok p =>
      let userAgent := (r.header? "user-agent").getD ""
      s.record o (s.enrich project.id p (clientAddress r) userAgent o.wall)

/-- Handle a posted event. -/
def collect (s : Service) (o : Occasion) (r : Http.Request) : Except ServiceError Unit × Service :=
  match collectKey r with
  | none => (.error .unauthorized, s)
  | some key =>
    match s.admission.check (clientAddress r) key o.clock with
    | (.exceeded kind _ limit, admission) =>
      (.error (.rateLimited kind limit), { s with admission })
    | (.allowed, admission) => ({ s with admission } : Service).accept o r key

end Service

end Footfall
