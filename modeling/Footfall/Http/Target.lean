import Footfall.Text.Split

/-!
# Request targets

The first line of a request says what the request is for. Most targets are a path with a query.
An absolute target names a scheme and a host before them, and has the root as its path when it
gives none. A host alone has no path, and a star stands for the whole server. A fragment is
dropped.

* `Target.parse?` is the target that a text writes, absent when a character has no place where it
  stands.
-/

namespace Footfall.Http

/-- The path and the query that a request is for. -/
structure Target where
  path : List Char
  query : List Char := []
  deriving DecidableEq, Repr

namespace Target

/-- A character of a path. -/
def isPathChar (c : Char) : Bool := 32 < c.toNat && !"#<>?\x60".toList.contains c

/-- A character of a query. -/
def isQueryChar (c : Char) : Bool := 32 < c.toNat && !"\x22#<>".toList.contains c

/-- A character of a scheme. -/
def isSchemeChar (c : Char) : Bool := c.isAlphanum || "+-.~".toList.contains c

/-- A character of a host with its credentials and its port. -/
def isHostChar (c : Char) : Bool := c.isAlphanum || "!$&\x27()*+,-.;=_~:@[]%".toList.contains c

/-- What has been seen of a host with its credentials and its port. At signs and closing brackets
start the count of colons anew, and what is encoded before them does not matter. -/
structure HostScan where
  colons : Nat := 0
  opened : Bool := false
  closed : Bool := false
  encoded : Bool := false
  /-- Was an at sign the last character? -/
  endsWithAt : Bool := false

/-- The scan after one more character, absent when that cannot stand there. -/
def HostScan.step (s : HostScan) (c : Char) : Option HostScan :=
  let s := { s with endsWithAt := false }
  match c with
  | ':' => if s.colons < 8 then some { s with colons := s.colons + 1 } else none
  | '[' => if s.encoded || s.opened then none else some { s with opened := true }
  | ']' =>
    if s.opened && !s.closed then some { s with closed := true, colons := 0, encoded := false }
    else none
  | '@' => some { s with colons := 0, encoded := false, endsWithAt := true }
  | '%' => some { s with encoded := true }
  | c => if isHostChar c then some s else none

/-- Is a text a host, with or without credentials and a port? -/
def isHost (cs : List Char) : Bool :=
  !cs.isEmpty &&
    (cs.foldlM HostScan.step {}).any fun s =>
      s.opened == s.closed && s.colons ≤ 1 && !s.encoded && !s.endsWithAt

/-- The path and the query at the start of a text. -/
def ofResource? (cs : List Char) : Option Target :=
  let resource := Text.before (· == '#') cs
  let path := Text.before (· == '?') resource
  let query := (resource.drop path.length).drop 1
  if path.all isPathChar && query.all isQueryChar then some ⟨path, query⟩ else none

/-- The scheme of an absolute target, and what follows it. -/
def splitScheme (cs : List Char) : Option (List Char × List Char) :=
  let scheme := cs.takeWhile isSchemeChar
  (Text.strip? "://".toList (cs.drop scheme.length)).map fun rest => (scheme, rest)

/-- The target of a scheme and what follows it: a host, and perhaps a path and a query. -/
def ofAbsolute? (scheme rest : List Char) : Option Target := do
  let host := Text.before (fun c => c == '/' || c == '?' || c == '#') rest
  let t ← ofResource? (rest.drop host.length)
  if scheme.length ≤ 64 && isHost host then
    some (if t.path.isEmpty then { t with path := ['/'] } else t)
  else none

/-- The most characters of a target. -/
def maxLength : Nat := 65534

/-- The target that a text writes. -/
def parse? (s : String) : Option Target :=
  if maxLength < s.utf8ByteSize then none
  else
    match s.toList with
    | ['*'] => some ⟨['*'], []⟩
    | '/' :: r => ofResource? ('/' :: r)
    | cs =>
      match splitScheme cs with
      | some (scheme, rest) => ofAbsolute? scheme rest
      | none => if isHost cs then some ⟨[], []⟩ else none

end Target

end Footfall.Http
