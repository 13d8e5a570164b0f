import Footfall.Digest.Sha256
import Footfall.Error
import Footfall.Time.Timestamp

/-!
# Visitor hashes

A visitor is known by a hash only. It covers the address of the client, its user agent, the
project, a secret salt of the server and the number of the current rotation period, so that the
same client gets another hash in another project and in another period, and nobody can compute
the hash without the salt.

* `rotationBucket` numbers the rotation periods.
* `Hasher` holds a salt and a rotation; `Hasher.new` and `Hasher.reload` accept long enough salts
  only.
* `Hasher.message` is the text that is hashed, `Hasher.hash` the hash.
-/

namespace Footfall.Visitor

/-- The least number of characters of a salt. -/
def leastSaltLength : Nat := 32

/-- The longest rotation in hours: a year. -/
def longestRotation : Nat := 8760

/-- A rotation brought into its bounds. -/
def clampRotation (hours : Nat) : Nat := min (max hours 1) longestRotation

/-- The number of the rotation period of an instant, before and after 1970. -/
def rotationBucket (t : Timestamp) (hours : Nat) : Int := t.seconds / 3600 / clampRotation hours

/-- A salt has to be long enough. -/
def checkSalt (salt : String) : Except DomainError Unit :=
  if salt.length < leastSaltLength then .error (.saltTooShort leastSaltLength salt.length)
  else .ok ()

/-- A salt and a rotation. -/
structure Hasher where
  salt : String
  rotationHours : Nat
  deriving DecidableEq, Repr

namespace Hasher

/-- A hasher with a salt and a rotation, which is brought into its bounds. -/
def new (salt : String) (hours : Nat) : Except DomainError Hasher :=
  match checkSalt salt with
  | .ok () => .ok ⟨salt, clampRotation hours⟩
  | .error e => .error e

/-- Replace salt and rotation. When the salt is refused, the hasher stays as it is. -/
def reload (h : Hasher) (salt : String) (hours : Nat) : Except DomainError Unit × Hasher :=
  match new salt hours with
  | .ok next => (.ok (), next)
  | .error e => (.error e, h)

/-- The text that identifies a visitor at an instant. -/
def message (h : Hasher) (address userAgent projectId : String) (t : Timestamp) : String :=
  address ++ userAgent ++ projectId ++ h.salt ++ toString (rotationBucket t h.rotationHours)

/-- The hash of a visitor at an instant, as 64 hexadecimal digits. -/
def hash (h : Hasher) (address userAgent projectId : String) (t : Timestamp) : String :=
  Digest.hex (Digest.digest (Digest.bytesOf (h.message address userAgent projectId t)))

end Hasher

end Footfall.Visitor
