import Footfall.Event.Basic
import Footfall.Net.Host

/-!
# Traffic sources

A session is attributed to the source of its first event: the campaign, else the source of the
campaign link, else the host of the referrer without a leading `www.`, else `Direct`.
-/

namespace Footfall.Revenue

/-- The host of a referrer in lower case, without a leading `www.`. -/
def referrerHost (referrer : String) : Option String := do
  let host := (← Net.hostOfUrl referrer).toList.map Char.toLower
  let host := (Text.strip? "www.".toList host).getD host
  if host.isEmpty then none else some (String.ofList host)

/-- The source that an event is attributed to. -/
def trafficSource (e : Event) : String :=
  (Text.present e.utmCampaign <|> Text.present e.utmSource <|>
    e.referrer.bind referrerHost).getD "Direct"

end Footfall.Revenue
