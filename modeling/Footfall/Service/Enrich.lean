import Footfall.Event.Payload
import Footfall.Service.Basic

/-!
# From a payload to an event

A valid payload becomes the event that is stored. The address and the user agent of the client
are used for the visitor hash, and for what the privacy mode allows to be known of the client;
they are not stored themselves. What the tracker says about browser, system and device wins over
what the user agent says.
-/

namespace Footfall

/-- The least and the greatest depth of a scroll, in percent. -/
def clampDepth (depth : Int) : Int := max 0 (min 100 depth)

/-- The browser, system and device of an event, as far as they may be stored. -/
def clientDetails (mode : PrivacyMode) (classify : Classifier) (p : Payload) (userAgent : String) :
    Option String × Option String × Option String :=
  if mode.allowsClientDetails then
    let agent := UserAgent.parse classify userAgent
    (Text.present p.browser <|> agent.map (·.browser),
      Text.present p.os <|> agent.map (·.os),
      Text.present p.device <|> agent.map (·.device))
  else (none, none, none)

/-- The location of an event, as far as it may be stored. An address is looked up only if anything
of its location may be. -/
def clientLocation (mode : PrivacyMode) (locate : Locator) (address : String) : Location :=
  if mode.allowsGeolocation then (locate address).redact mode else {}

/-- The event that is stored for a payload. -/
def enrich (mode : PrivacyMode) (hasher : Visitor.Hasher) (locate : Locator) (classify : Classifier)
    (projectId : String) (p : Payload) (address userAgent : String) (now : Timestamp) : Event :=
  let (browser, os, device) := clientDetails mode classify p userAgent
  let location := clientLocation mode locate address
  { projectId
    kind := p.kind
    eventName := if p.kind = .custom then p.eventName.map Text.trim else none
    properties := p.storedProperties
    path := p.path
    referrer := Text.present p.referrer
    utmSource := Text.present p.utmSource
    utmMedium := Text.present p.utmMedium
    utmCampaign := Text.present p.utmCampaign
    sessionId := p.sessionId
    visitorHash := hasher.hash address userAgent projectId now
    browser, os, device
    country := location.country
    city := location.city
    region := location.region
    latitude := location.latitude
    longitude := location.longitude
    scrollDepth := p.scrollDepth.map clampDepth
    targetUrl := Text.present p.targetUrl
    createdAt := now }

/-- The event that the service stores for a payload. -/
def Service.enrich (s : Service) (projectId : String) (p : Payload) (address userAgent : String)
    (now : Timestamp) : Event :=
  Footfall.enrich s.settings.privacy s.hasher s.locate s.classify projectId p address userAgent now

end Footfall
