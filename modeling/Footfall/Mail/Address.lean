import Footfall.Net.Address
import Footfall.Net.Name.Ascii
import Footfall.Text.Alphanumeric
import Footfall.Text.Split
import Footfall.Text.Utf8

/-!
# E-mail addresses

An address is a local part at a domain.

* `isLocalPart` says which local parts can be written to: words with points between them, or a
  text in quotes, of at most 64 bytes.
* `isDomain` says the same of domains: labels with points between them, or an address of the
  network, as the domain stands or in the form in which names are sent.
* `Address.ofParts` makes an address of two parts that both pass.
-/

namespace Footfall.Mail

/-- A local part at a domain. -/
structure Address where
  localPart : String
  domain : String
  deriving DecidableEq, Repr

/-- Why there is no address. -/
inductive AddressError where
  | malformed
  | invalidUser
  | invalidDomain
  deriving DecidableEq, Repr

/-- The wording of an error. -/
def AddressError.message : AddressError → String
  | .malformed => "Invalid input"
  | .invalidUser => "Invalid email user"
  | .invalidDomain => "Invalid email domain"

/-! ## Characters -/

/-- The blanks inside a line. -/
def isSpace (c : Char) : Bool := c == ' ' || c == '\t'

/-- The signs that words may hold besides letters and numbers. -/
def isWordSign (c : Char) : Bool := "!#$%&\x27*+-/=?^_\x60\x7b|\x7d~".toList.contains c

/-- A character whose code point, written as two bytes, is a sequence of two bytes in UTF-8. -/
def isPaired (c : Char) : Bool :=
  let (high, low) := (c.toNat / 256, c.toNat % 256)
  0xC2 ≤ high && high ≤ 0xDF && 0x80 ≤ low && low ≤ 0xBF

/-- A character of a word. -/
def isWordChar (c : Char) : Bool := Text.isAlphanumeric c || isWordSign c || isPaired c

/-- A visible character of ASCII. -/
def isVisible (c : Char) : Bool := 0x21 ≤ c.toNat && c.toNat ≤ 0x7E

/-! ## Local parts -/

/-- Is a text made of words with single points between them? -/
def isPointed (cs : List Char) : Bool :=
  (Text.splitBy (· == '.') cs).all fun w => !w.isEmpty && w.all isWordChar

/-- May a text stand between quotes? A backslash protects the visible character after it. -/
def isQuotedContent : List Char → Bool
  | [] => true
  | '\\' :: c :: r => isVisible c && isQuotedContent r
  | c :: r =>
    (isSpace c || isPaired c || (isVisible c && c != '"' && c != '\\')) && isQuotedContent r

/-- What stands between the first and the last character of a text, when these are the given
ones. -/
def enclosed? (first last : Char) (cs : List Char) : Option (List Char) :=
  match cs with
  | c :: r => if c = first ∧ r.getLast? = some last then some r.dropLast else none
  | [] => none

/-- A local part that can be written to. -/
def isLocalPart (cs : List Char) : Bool :=
  Text.utf8Length cs ≤ 64 &&
    match enclosed? '"' '"' cs with
    | some inner => !inner.isEmpty && isQuotedContent inner
    | none => isPointed cs

/-! ## Domains -/

/-- A label of a domain: a word of at most 63 bytes, with a letter or number at both ends. -/
def isLabel (w : List Char) : Bool :=
  w.head?.any Text.isAlphanumeric && w.getLast?.any Text.isAlphanumeric && Text.utf8Length w ≤ 63 &&
    w.all isWordChar

/-- Is a text an address of the network? -/
def isNetworkAddress (cs : List Char) : Bool :=
  (Net.parseDotted cs).isSome || (Net.parseGroups cs).isSome

/-- A domain of at most 254 bytes as it stands: labels with points between them, any text without
brackets and backslashes in brackets, or an address of the network. -/
def isPlainDomain (cs : List Char) : Bool :=
  match enclosed? '[' ']' cs with
  | some inner =>
    (Text.utf8Length cs ≤ 254 &&
      inner.all fun c => isPaired c || (isVisible c && !"[\\]".toList.contains c)) ||
      isNetworkAddress inner
  | none =>
    (Text.utf8Length cs ≤ 254 && (Text.splitBy (· == '.') cs).all isLabel) || isNetworkAddress cs

/-- A domain that can be written to, as it stands or in the form in which names are sent. -/
def isDomain (cs : List Char) : Bool :=
  isPlainDomain cs || (Net.Name.toAscii cs).any isPlainDomain

/-- The address with the given parts. The local part is looked at first. -/
def Address.ofParts (user domain : List Char) : Except AddressError Address :=
  if !isLocalPart user then .error .invalidUser
  else if !isDomain domain then .error .invalidDomain
  else .ok ⟨String.ofList user, String.ofList domain⟩

end Footfall.Mail
