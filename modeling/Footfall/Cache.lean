import Footfall.Table
import Footfall.Time.Timestamp

/-!
# A bounded cache with expiry

A cache holds values for a limited time and at most a fixed number of them. An entry expires a
fixed time after it was touched: by its last write, or also by its last successful read. A new key
in a full cache first drives out all expired entries, and if that is not enough, the entry that
was touched the longest ago.

Every operation takes the reading of the clock at which it happens. Reading through the cache is
split into its two halves, a lookup and a later write, since other operations may come in between
while a value is being loaded.

* `Cache.get` looks a key up, `Cache.insert` writes one.
* `Cache.getOrInsertWith` looks a key up and writes an initial value on a miss; `Cache.obtain` also
  tells whether it did.
* `Cache.invalidate` and `Cache.clear` forget one key or all.
-/

namespace Footfall

/-- When the time of an entry starts anew: the time to live, in nanoseconds, runs from the last
write, or from the last write or read. -/
inductive Expiry where
  | afterWrite (ttl : Nat)
  | afterAccess (ttl : Nat)
  deriving DecidableEq, Repr

/-- The time that an entry lives. -/
def Expiry.ttl : Expiry → Nat
  | .afterWrite ttl => ttl
  | .afterAccess ttl => ttl

/-- Does a read start the time of an entry anew? -/
def Expiry.refreshes : Expiry → Bool
  | .afterWrite _ => false
  | .afterAccess _ => true

/-- A cached value and the moment it was last touched. -/
structure CacheEntry (ν : Type) where
  value : ν
  touchedAt : Moment

/-- A bounded cache with expiry. -/
structure Cache (κ ν : Type) where
  expiry : Expiry
  capacity : Nat
  entries : Table κ (CacheEntry ν) := {}

namespace Cache

variable {κ ν : Type} [DecidableEq κ]

/-- An empty cache. It has room for at least one entry. -/
def empty (expiry : Expiry) (capacity : Nat) : Cache κ ν := ⟨expiry, max capacity 1, {}⟩

/-- Has the time of an entry not run out yet? -/
def isLive (c : Cache κ ν) (now : Moment) (e : CacheEntry ν) : Bool :=
  elapsed e.touchedAt now < c.expiry.ttl

/-- Start the time of an entry anew, if a read does so. -/
def touch (c : Cache κ ν) (key : κ) (e : CacheEntry ν) (now : Moment) : Cache κ ν :=
  if c.expiry.refreshes then { c with entries := c.entries.put key { e with touchedAt := now } }
  else c

/-- The value of a key that has not expired. An expired entry is removed. -/
def get (c : Cache κ ν) (key : κ) (now : Moment) : Option ν × Cache κ ν :=
  match c.entries.find? key with
  | none => (none, c)
  | some e =>
    if c.isLive now e then (some e.value, c.touch key e now)
    else (none, { c with entries := c.entries.erase key })

/-- The key of the entry that was touched the longest ago. -/
def oldest : List (κ × CacheEntry ν) → Option κ
  | [] => none
  | e :: r =>
    some (r.foldl (fun best f => if f.2.touchedAt < best.2.touchedAt then f else best) e).1

/-- Make room for one more entry in a full cache. -/
def makeRoom (c : Cache κ ν) (now : Moment) : Cache κ ν :=
  let live := c.entries.retain (c.isLive now)
  if live.size < c.capacity then { c with entries := live }
  else
    match oldest live.entries with
    | some key => { c with entries := live.erase key }
    | none => { c with entries := live }

/-- Write a key. -/
def insert (c : Cache κ ν) (key : κ) (value : ν) (now : Moment) : Cache κ ν :=
  let c := if c.entries.has key || c.entries.size < c.capacity then c else c.makeRoom now
  { c with entries := c.entries.put key ⟨value, now⟩ }

/-- The value of a key that has not expired, or else the initial value, which is then written; and
whether it was the initial one. -/
def obtain (c : Cache κ ν) (key : κ) (initial : Unit → ν) (now : Moment) :
    (ν × Bool) × Cache κ ν :=
  let fresh : (ν × Bool) × Cache κ ν := ((initial (), true), c.insert key (initial ()) now)
  match c.entries.find? key with
  | none => fresh
  | some e => if c.isLive now e then ((e.value, false), c.touch key e now) else fresh

/-- The value of a key that has not expired, or else the initial value, which is then written. -/
def getOrInsertWith (c : Cache κ ν) (key : κ) (initial : Unit → ν) (now : Moment) :
    ν × Cache κ ν :=
  let (r, c) := c.obtain key initial now
  (r.1, c)

/-- Change the value of a key in place, without touching the entry. -/
def adjust (c : Cache κ ν) (key : κ) (f : ν → ν) : Cache κ ν :=
  match c.entries.find? key with
  | none => c
  | some e => { c with entries := c.entries.put key { e with value := f e.value } }

/-- Forget a key. -/
def invalidate (c : Cache κ ν) (key : κ) : Cache κ ν :=
  { c with entries := c.entries.erase key }

/-- Forget all keys. -/
def clear (c : Cache κ ν) : Cache κ ν := { c with entries := {} }

/-- The number of entries, expired ones included. -/
def size (c : Cache κ ν) : Nat := c.entries.size

/-- Read through the cache with a loader whose result is known beforehand: the value, and whether
it was loaded. A loader that fails changes nothing. -/
def getOrCompute {ε : Type} (c : Cache κ ν) (key : κ) (load : Unit → Except ε ν) (now : Moment) :
    Except ε (ν × Bool) × Cache κ ν :=
  match c.get key now with
  | (some v, c) => (.ok (v, false), c)
  | (none, c) =>
    match load () with
    | .ok v => (.ok (v, true), c.insert key v now)
    | .error e => (.error e, c)

end Cache

end Footfall
