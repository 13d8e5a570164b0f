import Footfall.Admission.Bucket

/-!
# Admission control

Every event that arrives has to be admitted: it costs a token of its client's address and a token
of its API key. The address is asked first, and a client that is over its limit costs the key
nothing; a key over its limit does not give the address its token back. Each of the two steps is
atomic on its own.

* `Controller.check` decides about one request: `Controller.takeAddress`, then
  `Controller.takeKey`.
* `Controller.status` reads both buckets, `Controller.reconfigure` changes the limits, and
  `Controller.evictIdle` drops buckets that have not been used for the eviction window.
* `retryAfter` is the number of seconds after which a refused client may come back.
-/

namespace Footfall.Admission

/-- Which of the two limits a request is over. -/
inductive LimitKind where
  | address
  | apiKey
  deriving DecidableEq, Repr

/-- The code of a kind of limit in answers. -/
def LimitKind.code : LimitKind → String
  | .address => "IP"
  | .apiKey => "API_KEY"

/-- The name of a kind of limit in messages. -/
def LimitKind.label : LimitKind → String
  | .address => "Ip"
  | .apiKey => "ApiKey"

/-- The time over which limits count. -/
def windowLabel : String := "1 minute"

/-- The decision about a request. -/
inductive Outcome where
  | allowed
  | exceeded (kind : LimitKind) (identifier : String) (limit : Nat)
  deriving DecidableEq, Repr

/-- Buckets not used for this long, in nanoseconds, are dropped: ten minutes. -/
def defaultEvictionWindow : Nat := 600 * 1000000000

/-- The buckets of all addresses and of all keys. -/
structure Controller (α : Type) where
  address : Scope α
  apiKey : Scope α
  evictionWindow : Nat := defaultEvictionWindow

/-- Both buckets of a client as they are now. -/
structure Status (α : Type) where
  addressRemaining : α
  addressMaximum : Nat
  apiKeyRemaining : α
  apiKeyMaximum : Nat

namespace Controller

variable {α : Type} [Scalar α]

/-- A controller that has seen nobody. -/
def new (addressLimit apiKeyLimit : Nat) : Controller α :=
  { address := Scope.new addressLimit, apiKey := Scope.new apiKeyLimit }

/-- The first step: take a token of the address. -/
def takeAddress (c : Controller α) (address : String) (now : Moment) : Bool × Controller α :=
  let (taken, s) := c.address.take address now
  (taken, { c with address := s })

/-- The second step: take a token of the key. -/
def takeKey (c : Controller α) (key : String) (now : Moment) : Bool × Controller α :=
  let (taken, s) := c.apiKey.take key now
  (taken, { c with apiKey := s })

/-- Decide about a request. -/
def check (c : Controller α) (address key : String) (now : Moment) : Outcome × Controller α :=
  match c.takeAddress address now with
  | (false, c) => (.exceeded .address address c.address.capacity, c)
  | (true, c) =>
    match c.takeKey key now with
    | (false, c) => (.exceeded .apiKey key c.apiKey.capacity, c)
    | (true, c) => (.allowed, c)

/-- The tokens of an address and a key. -/
def status (c : Controller α) (address key : String) (now : Moment) : Status α :=
  ⟨c.address.remaining address now, c.address.capacity, c.apiKey.remaining key now,
    c.apiKey.capacity⟩

/-- The controller with other limits. Tokens beyond a new limit are lost at the next refill. -/
def reconfigure (c : Controller α) (addressLimit apiKeyLimit : Nat) : Controller α :=
  { c with
    address := c.address.reconfigure addressLimit
    apiKey := c.apiKey.reconfigure apiKeyLimit }

/-- Drop the buckets not used for the eviction window, and count them. -/
def evictIdle (c : Controller α) (now : Moment) : Nat × Controller α :=
  let (n, address) := c.address.evictIdle now c.evictionWindow
  let (m, apiKey) := c.apiKey.evictIdle now c.evictionWindow
  (n + m, { c with address, apiKey })

/-- The number of buckets. -/
def tracked (c : Controller α) : Nat := c.address.buckets.size + c.apiKey.buckets.size

end Controller

/-- The seconds until a token is back in a bucket with the given limit. -/
def retryAfter (limit : Nat) : Nat := (60 + max limit 1 - 1) / max limit 1

end Footfall.Admission
