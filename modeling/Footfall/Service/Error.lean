import Footfall.Admission.Controller
import Footfall.Error
import Footfall.Event.Payload
import Footfall.Http.Message
import Footfall.Store.Basic

/-!
# Errors of requests

Why a request is refused, and the response that says so. The cause of an internal error is not
told to the client.

* `ServiceError` is the cause; `ofDomain`, `ofStore` and `ofPayload` embed the errors of the parts.
* `ServiceError.message` words it for the log.
* `ServiceError.response` is the response.
-/

namespace Footfall

open Admission (LimitKind)

/-- Why a request is refused. -/
inductive ServiceError where
  | notFound (message : String)
  | badRequest (message : String)
  | unauthorized
  | rateLimited (kind : LimitKind) (limit : Nat)
  | payloadTooLarge
  | internal (message : String)
  deriving DecidableEq, Repr

namespace ServiceError

/-- An error of the domain as the cause of a refusal. -/
def ofDomain : DomainError → ServiceError
  | .invalidEvent detail => .badRequest detail
  | .invalidFilter detail => .badRequest detail
  | .notFound what => .notFound (DomainError.notFound what).message
  | e => .internal e.message

/-- A failure of the store as the cause of a refusal. -/
def ofStore (f : StoreFailure) : ServiceError := .internal f.message

/-- A broken rule of payloads as the cause of a refusal. -/
def ofPayload (e : PayloadError) : ServiceError := ofDomain (.invalidEvent e.message)

/-- The wording for the log. -/
def message : ServiceError → String
  | .notFound m => "not found: " ++ m
  | .badRequest m => "bad request: " ++ m
  | .unauthorized => "unauthorized"
  | .rateLimited kind limit =>
    "rate limited (" ++ kind.label ++ ", " ++ toString limit ++ " per " ++ Admission.windowLabel ++
      ")"
  | .payloadTooLarge => "payload too large"
  | .internal m => "internal error: " ++ m

/-- The status of the response. -/
def status : ServiceError → Nat
  | .notFound _ => 404
  | .badRequest _ => 400
  | .unauthorized => 401
  | .rateLimited _ _ => 429
  | .payloadTooLarge => 413
  | .internal _ => 500

/-- The code in the response. -/
def code : ServiceError → String
  | .notFound _ => "not_found"
  | .badRequest _ => "validation_error"
  | .unauthorized => "unauthorized"
  | .rateLimited _ _ => "rate_limited"
  | .payloadTooLarge => "payload_too_large"
  | .internal _ => "internal_error"

/-- What the client is told. -/
def clientMessage : ServiceError → String
  | .notFound m => m
  | .badRequest m => m
  | .unauthorized => "Unauthorized"
  | .rateLimited _ _ => "Rate limit exceeded"
  | .payloadTooLarge => "Payload exceeds size limit"
  | .internal _ => "Internal server error"

/-- The fields that only some responses have. -/
def details : ServiceError → List (String × Json.Value)
  | .rateLimited kind limit =>
    [ ("limit_type", .string kind.code),
      ("limit", .int limit),
      ("window", .string Admission.windowLabel) ]
  | _ => []

/-- The headers that only some responses have. -/
def extraHeaders : ServiceError → List (String × String)
  | .rateLimited _ limit => [("retry-after", toString (Admission.retryAfter limit))]
  | _ => []

/-- The response that refuses a request. -/
def response (e : ServiceError) : Http.Response :=
  let fields : List (String × Json.Value) :=
    [("code", .string e.code), ("message", .string e.clientMessage), ("field", .null)]
  (Http.Response.json e.status
    (.ofFields [("error", .ofFields (fields ++ e.details))])).withHeaders e.extraHeaders

end ServiceError

end Footfall
