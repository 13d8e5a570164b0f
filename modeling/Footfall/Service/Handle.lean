import Footfall.Http.Cors
import Footfall.Service.Figures

/-!
# Answering requests

Every request is answered, except one whose date arithmetic leaves the representable years. A
method that a route does not answer is refused with the methods that it does; a head request is
answered like a get request without the body. All answers say which origins are allowed; the
policy for that is the one the service was started with.
-/

namespace Footfall

/-- The version that the health check reports. -/
def version : String := "0.1.0"

namespace Setback

/-- The response to a request that was set back, absent when it is given up. -/
def response : Setback → Option Http.Response
  | .refused cause => some cause.response
  | .unreadable message => some (.text 400 message)
  | .outOfRange => none

end Setback

namespace Service

/-- The answer of the health check. -/
def health (s : Service) : Http.Response :=
  let answer (status : Nat) (word : String) : Http.Response :=
    .json status (.ofFields [("status", .string word), ("version", .string version)])
  match s.store.ping with
  | .ok () => answer 200 "ok"
  | .error _ => answer 503 "degraded"

/-- Answer a request on a route that answers its method. -/
def serve (s : Service) (o : Occasion) (r : Http.Request) : Route → Option Http.Response × Service
  | .health => (some s.health, s)
  | .collect =>
    match s.collect o r with
    | (.ok (), s) => (some accepted, s)
    | (.error e, s) => (some e.response, s)
  | .figure projectId f =>
    match s.figure o.wall r projectId f with
    | .ok v => (some (.json 200 v), s)
    | .error e => (e.response, s)

/-- The response to a request for its head only. -/
def withoutBody (r : Http.Response) : Http.Response := { r with body := .empty }

/-- Answer a request apart from cross-origin access. -/
def route (s : Service) (o : Occasion) (r : Http.Request) : Option Http.Response × Service :=
  match Route.ofPath r.path with
  | none => (some (.bare 404), s)
  | some target =>
    if target.answers r.method then
      let (response, s) := s.serve o r target
      (if r.method == "HEAD" then response.map withoutBody else response, s)
    else (some ((Http.Response.bare 405).withHeaders [("allow", target.methods)]), s)

/-- Answer a browser that asks beforehand what it may send. -/
def preflight (policy : Http.OriginPolicy) (r : Http.Request) : Http.Response :=
  let allow :=
    match Route.ofPath r.path with
    | some target => [("allow", target.methods)]
    | none => []
  (Http.Response.bare 200).withHeaders
    (policy.preflightHeaders (r.rawHeader? "origin") ++ allow)

/-- Answer a request; no answer means that it was given up. -/
def handle (s : Service) (policy : Http.OriginPolicy) (o : Occasion) (r : Http.Request) :
    Option Http.Response × Service :=
  if r.method == "OPTIONS" then (some (preflight policy r), s)
  else
    let (response, s) := s.route o r
    (response.map fun a => a.withHeaders (policy.headers (r.rawHeader? "origin")), s)

end Service

end Footfall
