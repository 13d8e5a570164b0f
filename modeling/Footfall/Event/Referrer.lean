import Footfall.Text.Lowercase
import Footfall.Text.Split

/-!
# The domain of a referrer

The referrers of a report are grouped by domain: what follows the scheme, up to the path, query or
fragment, in lower case. Only the schemes `https` and `http` are known, in that order and in lower
case; what is left of a text without either is taken as it is.
-/

namespace Footfall.Referrer

/-- Does the character end the domain? -/
def endsDomain (c : Char) : Bool := c == '/' || c == '?' || c == '#'

/-- A referrer without its scheme. -/
def withoutScheme (cs : List Char) : List Char :=
  Text.stripAll "http://".toList (Text.stripAll "https://".toList cs)

/-- The domain of a referrer, absent when it is empty. -/
def domain (referrer : String) : Option String :=
  let host := Text.before endsDomain (withoutScheme referrer.toList)
  if host.isEmpty then none else some (Text.lowercase (String.ofList host))

end Footfall.Referrer
