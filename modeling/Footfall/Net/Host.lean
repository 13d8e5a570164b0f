import Footfall.Net.Address
import Footfall.Net.Name.Ascii

/-!
# The host of a link

The host of an absolute link, read as browsers read links: blanks and control characters at the
ends and line breaks anywhere are dropped, a backslash counts as a slash in the schemes of the
web, and credentials and port are passed over. Hosts of the web are names or addresses. A name is
decoded, lower-cased and encoded in ASCII; if its last part is a number, it has to be an address.
Hosts under any other scheme are kept as they stand.

* `Scheme` tells the schemes of the web from files and from the rest.
* `hostOfName` reads the host of a link of the web.
* `hostOfUrl` is the host of a whole link, absent when the link has none or is malformed.
-/

namespace Footfall.Net

/-- How the host of a link is read depends on its scheme. -/
inductive Scheme where
  | web
  | file
  | other
  deriving DecidableEq, Repr

/-- The class of a scheme, given in lower case. -/
def Scheme.ofName (name : String) : Scheme :=
  if name ∈ ["http", "https", "ws", "wss", "ftp"] then .web
  else if name = "file" then .file
  else .other

/-- Line breaks and tabs, which are dropped wherever they stand. -/
def isIgnored (c : Char) : Bool := c == '\t' || c == '\n' || c == '\r'

/-- The link without blanks and control characters at its ends and without line breaks. -/
def cleaned (url : String) : List Char :=
  let edge (c : Char) : Bool := c.toNat ≤ 32
  let inner := ((url.toList.dropWhile edge).reverse.dropWhile edge).reverse
  inner.filter fun c => !isIgnored c

/-- The scheme of a link in lower case, and what follows its colon. -/
def splitScheme (cs : List Char) : Option (String × List Char) := do
  let (scheme, rest) ← Text.splitOnce ':' cs
  let first ← scheme.head?
  if first.isAlpha ∧ scheme.all fun c => c.isAlphanum || c == '+' || c == '-' || c == '.' then
    some (String.ofList (scheme.map Char.toLower), rest)
  else none

/-- Does the character end the authority of a link? -/
def endsAuthority (s : Scheme) (c : Char) : Bool :=
  c == '/' || c == '?' || c == '#' || (c == '\\' && s != .other)

/-- What follows the last at sign, if there is one. -/
def afterCredentials (authority : List Char) : List Char :=
  (authority.reverse.takeWhile (· != '@')).reverse

/-- The host and what follows it; a colon within brackets belongs to the host. -/
def splitHost (bracketed : Bool) : List Char → List Char × List Char
  | [] => ([], [])
  | c :: r =>
    if c = ':' ∧ !bracketed then ([], c :: r)
    else
      let bracketed := if c = '[' then true else if c = ']' then false else bracketed
      let (host, rest) := splitHost bracketed r
      (c :: host, rest)

/-- Is what follows the host a valid port, or nothing? A backslash ends it in all schemes. -/
def validPort : List Char → Bool
  | [] => true
  | ':' :: r =>
    let ds := Text.before (· == '\\') r
    ds.all Char.isDigit && ds.foldl (fun n c => n * 10 + (c.toNat - 48)) 0 < 65536
  | _ => false

/-- The characters that no host name may have. -/
def isForbidden (c : Char) : Bool :=
  c.toNat ≤ 32 || c.toNat == 127 || "%#/:<>?@[\\]^|".toList.contains c

/-- The characters that no host under another scheme may have. -/
def isForbiddenOpaque (c : Char) : Bool :=
  "\x00\t\n\r #/:<>?@[\\]^|".toList.contains c

/-- The host of a link of the web. -/
def hostOfName (cs : List Char) : Option (List Char) :=
  match cs with
  | '[' :: r =>
    if r.getLast? = some ']' then
      (parseGroups r.dropLast).map fun gs => '[' :: groupsText gs ++ [']']
    else none
  | cs => do
    let name ← Name.toAscii (← Text.decodeStrict (Text.percentBytes cs))
    if name.isEmpty ∨ name.any isForbidden then none
    else if endsInNumber name then (parseNumbers name).map Dotted.text
    else some name

/-- The percent-encoded form of a character that is no printable ASCII. -/
def encodeControl (c : Char) : List Char :=
  if 32 ≤ c.toNat ∧ c.toNat < 127 then [c]
  else
    (Text.encodeUtf8 [c]).flatMap fun b =>
      '%' :: [Nat.digitChar (b / 16), Nat.digitChar (b % 16)].map Char.toUpper

/-- The host of a link under another scheme. -/
def opaqueHost (cs : List Char) : Option (List Char) :=
  match cs with
  | '[' :: _ => hostOfName cs
  | cs => if cs.any isForbiddenOpaque then none else some (cs.flatMap encodeControl)

/-- The host of an authority: credentials, host and port. -/
def hostOfAuthority (s : Scheme) (authority : List Char) : Option (List Char) := do
  let (host, port) := splitHost false (afterCredentials authority)
  if host.isEmpty ∧ (s = .web ∨ !port.isEmpty) then none
  else if validPort port then
    if s = .web then hostOfName host else opaqueHost host
  else none

/-- Is it a letter and a colon, or a bar in its place? -/
def isDriveLetter (cs : List Char) : Bool :=
  match cs with
  | [a, b] => a.isAlpha && (b == ':' || b == '|')
  | _ => false

/-- Does a segment of a path stand for the directory itself? -/
def isHere (segment : List Char) : Bool :=
  [".", "%2e"].contains (String.ofList (segment.map Char.toLower))

/-- Does a segment of a path stand for the directory above? -/
def isAbove (segment : List Char) : Bool :=
  ["..", ".%2e", "%2e.", "%2e%2e"].contains (String.ofList (segment.map Char.toLower))

/-- Is the first segment of a path a drive letter? Segments that lead to a directory and back out
of it do not count; `depth` says how many segments there are before. -/
def startsWithDrive (depth : Nat) : List (List Char) → Bool
  | [] => false
  | segment :: r =>
    if isAbove segment then startsWithDrive (depth - 1) r
    else if isHere segment then startsWithDrive depth r
    else (depth == 0 && isDriveLetter segment) || startsWithDrive (depth + 1) r

/-- The segments of the path that follows the host of a link to a file. -/
def pathSegments (rest : List Char) : List (List Char) :=
  let path := Text.before (fun c => c == '?' || c == '#') rest
  Text.splitBy (fun c => c == '/' || c == '\\') (path.drop 1)

/-- The host of a link to a file, which is empty for this computer. A drive letter at the start of
the path makes it a link to this computer. -/
def hostOfFile (rest : List Char) : Option (List Char) :=
  match rest with
  | a :: b :: r =>
    if (a == '/' || a == '\\') && (b == '/' || b == '\\') then
      let host := Text.before (endsAuthority .file) r
      if host.isEmpty || isDriveLetter host then some []
      else
        (hostOfName host).map fun h =>
          if h = "localhost".toList ∨ startsWithDrive 0 (pathSegments (r.drop host.length)) then []
          else h
    else some []
  | _ => some []

/-- The host of a link, absent when it has none or is malformed. -/
def hostOfUrl (url : String) : Option String := do
  let (name, rest) ← splitScheme (cleaned url)
  let host ←
    match Scheme.ofName name with
    | .web =>
      let rest := rest.dropWhile fun c => c == '/' || c == '\\'
      hostOfAuthority .web (Text.before (endsAuthority .web) rest)
    | .file => hostOfFile rest
    | .other =>
      (Text.strip? ['/', '/'] rest).bind fun rest =>
        hostOfAuthority .other (Text.before (endsAuthority .other) rest)
  if host.isEmpty then none else some (String.ofList host)

end Footfall.Net
