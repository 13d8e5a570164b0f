import Footfall.Http.Target
import Footfall.Json.Value

/-!
# Requests and responses

A request has a target, headers and a body of text; a response has a status, headers and a body
that is JSON, plain text or nothing. A header whose value is not made of visible ASCII characters
is not readable, and a reader of headers treats it as absent.

* `Request.isSendable` says whether the method and the headers of a request can be written down.
* `Request.header?` reads a header.
* `Response.json` makes a response with its content type.
-/

namespace Footfall.Http

/-- Is a text a word of the protocol, such as a method or the name of a header? -/
def isToken (s : String) : Bool :=
  !s.isEmpty &&
    s.toList.all fun c => c.isAlphanum || "!#$%&\x27*+-.^_\x60|~".toList.contains c

/-- Can a text be the value of a header? It must not hold control characters other than tabs. -/
def isHeaderValue (s : String) : Bool :=
  s.toList.all fun c => c == '\t' || (32 ≤ c.toNat && c.toNat != 127)

/-- A request. -/
structure Request where
  method : String := "GET"
  target : Target
  /-- Names in lower case, with their values. -/
  headers : List (String × String) := []
  body : String := ""
  /-- The address of the peer with its port, if it is known. -/
  peer : Option String := none
  deriving DecidableEq, Repr

/-- The body of a response. -/
inductive Body where
  | empty
  | json (v : Json.Value)
  | text (s : String)

/-- A response. -/
structure Response where
  status : Nat
  headers : List (String × String)
  body : Body

namespace Request

/-- The path of the target. -/
def path (r : Request) : List Char := r.target.path

/-- The query of the target. -/
def query (r : Request) : List Char := r.target.query

/-- Can the method and the headers be written down? -/
def isSendable (r : Request) : Bool :=
  isToken r.method && r.headers.all fun h => isToken h.1 && isHeaderValue h.2

/-- The value of a header as it was sent. -/
def rawHeader? (r : Request) (name : String) : Option String :=
  (r.headers.find? fun h => h.1 == name).map (·.2)

/-- A visible ASCII character, a space or a tab. -/
def isReadable (c : Char) : Bool := (32 ≤ c.toNat && c.toNat < 127) || c == '\t'

/-- The value of a header that is readable. -/
def header? (r : Request) (name : String) : Option String :=
  (r.rawHeader? name).filter fun v => v.toList.all isReadable

end Request

namespace Response

/-- A response with JSON. -/
def json (status : Nat) (v : Json.Value) : Response :=
  ⟨status, [("content-type", "application/json")], .json v⟩

/-- A response with plain text. -/
def text (status : Nat) (s : String) : Response :=
  ⟨status, [("content-type", "text/plain; charset=utf-8")], .text s⟩

/-- A response without a body. -/
def bare (status : Nat) : Response := ⟨status, [], .empty⟩

/-- The response with further headers. -/
def withHeaders (r : Response) (headers : List (String × String)) : Response :=
  { r with headers := r.headers ++ headers }

end Response

end Footfall.Http
