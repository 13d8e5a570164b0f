import Footfall.Proofs.Text.Blank
import Footfall.Service.Enrich

/-!
# What an event tells of its client

A stored event has nine fields about the client that sent it (`ClientField`). Whatever the client,
the locator and the classifier of user agents are, and whatever the payload says of browser, system
and device, the event is the same in its other fields (`withoutClient_enrich`). How far the nine
fields depend on these things is decided by the privacy mode:

* `agreeExcept_enrich_paranoid`: none of them but the visitor hash depends on anything.
* `agreeExcept_enrich_strict`: of where the client is, only the country is known.
* `agreeExcept_enrich_userAgent`: the user agent fills in the details that the payload leaves open.
* `agreeExcept_enrich_address`: the address decides about where the client is.

`enrich_noninterference` puts them together, with the fields that a privacy mode leaves out
altogether (`lacks_enrich_paranoid`, `lacks_enrich_strict`).
-/

namespace Footfall

/-! ## Fields about the client -/

/-- A field of an event about the client that sent it. -/
inductive ClientField where
  | visitorHash
  | country
  | region
  | city
  | latitude
  | longitude
  | browser
  | os
  | device
  deriving DecidableEq, Repr

namespace ClientField

/-- The fields about where a client is. -/
def location : List ClientField := [.country, .region, .city, .latitude, .longitude]

/-- The fields that tell where in its country a client is. -/
def preciseLocation : List ClientField := [.region, .city, .latitude, .longitude]

/-- The fields about browser, system and device. -/
def details : List ClientField := [.browser, .os, .device]

/-- Is the field absent from an event? A visitor hash never is. -/
def AbsentFrom (e : Event) : ClientField → Prop
  | .visitorHash => False
  | .country => e.country = none
  | .region => e.region = none
  | .city => e.city = none
  | .latitude => e.latitude = none
  | .longitude => e.longitude = none
  | .browser => e.browser = none
  | .os => e.os = none
  | .device => e.device = none

/-- Is the field the same in two events? -/
def SameIn (e f : Event) : ClientField → Prop
  | .visitorHash => e.visitorHash = f.visitorHash
  | .country => e.country = f.country
  | .region => e.region = f.region
  | .city => e.city = f.city
  | .latitude => e.latitude = f.latitude
  | .longitude => e.longitude = f.longitude
  | .browser => e.browser = f.browser
  | .os => e.os = f.os
  | .device => e.device = f.device

end ClientField

namespace Event

/-- None of the given fields is present in an event. -/
def Lacks (e : Event) (fields : List ClientField) : Prop := ∀ x ∈ fields, x.AbsentFrom e

/-- An event without anything about its client. -/
def withoutClient (e : Event) : Event :=
  { e with
    visitorHash := "", country := none, region := none, city := none, latitude := none
    longitude := none, browser := none, os := none, device := none }

/-- Two events are the same in every field, except perhaps the given fields about the client. -/
structure AgreeExcept (fields : List ClientField) (e f : Event) : Prop where
  withoutClient_eq : e.withoutClient = f.withoutClient
  same : ∀ x ∉ fields, x.SameIn e f

end Event

/-- The details that a payload says nothing of: they are absent or blank. -/
def Payload.openDetails (p : Payload) : List ClientField :=
  ClientField.details.filter fun
    | .browser => p.browser.all Text.isBlankText
    | .os => p.os.all Text.isBlankText
    | .device => p.device.all Text.isBlankText
    | _ => false

/-! ## The parts of an event -/

section Enrich

open Event (AgreeExcept)

variable (mode : PrivacyMode) (hasher : Visitor.Hasher) (locate locate' : Locator)
  (classify : Classifier) (projectId : String) (p : Payload) (address address' : String)
  (userAgent userAgent' : String) (browser os device : Option String) (now : Timestamp)

/-- The fields that are not about the client depend on project, payload and instant alone. -/
theorem withoutClient_enrich :
    (enrich mode hasher locate classify projectId p address userAgent now).withoutClient =
      (enrich mode hasher locate' classify projectId { p with browser, os, device } address'
        userAgent' now).withoutClient := by
  simp only [enrich, Event.withoutClient, Payload.storedProperties]

/-- What a payload says of a detail wins over what the user agent says. -/
theorem orElse_eq_of_said {said : Option String} (h : said.all Text.isBlankText = false)
    (a b : Option String) : (Text.present said <|> a) = (Text.present said <|> b) := by
  obtain ⟨v, hv⟩ := Option.ne_none_iff_exists'.1 fun hnone =>
    Bool.eq_false_iff.1 h (Text.present_eq_none_iff.1 hnone)
  rw [hv]
  rfl

/-- A detail that a payload tells does not depend on the user agent. -/
theorem clientDetails_eq_of_said :
    (p.browser.all Text.isBlankText = false →
        (clientDetails mode classify p userAgent).1 =
          (clientDetails mode classify p userAgent').1) ∧
      (p.os.all Text.isBlankText = false →
        (clientDetails mode classify p userAgent).2.1 =
          (clientDetails mode classify p userAgent').2.1) ∧
      (p.device.all Text.isBlankText = false →
        (clientDetails mode classify p userAgent).2.2 =
          (clientDetails mode classify p userAgent').2.2) := by
  unfold clientDetails
  split
  · exact ⟨fun h => orElse_eq_of_said h _ _, fun h => orElse_eq_of_said h _ _,
      fun h => orElse_eq_of_said h _ _⟩
  · exact ⟨fun _ => rfl, fun _ => rfl, fun _ => rfl⟩

/-! ## Privacy modes -/

theorem agreeExcept_enrich_paranoid :
    AgreeExcept [.visitorHash]
      (enrich .paranoid hasher locate classify projectId p address userAgent now)
      (enrich .paranoid hasher locate' classify projectId { p with browser, os, device } address'
        userAgent' now) := by
  refine ⟨withoutClient_enrich .., fun x hx => ?_⟩
  cases x with
  | visitorHash => simp at hx
  | country => rfl
  | region => rfl
  | city => rfl
  | latitude => rfl
  | longitude => rfl
  | browser => rfl
  | os => rfl
  | device => rfl

theorem lacks_enrich_paranoid :
    (enrich .paranoid hasher locate classify projectId p address userAgent now).Lacks
      (ClientField.location ++ ClientField.details) := by
  simp [Event.Lacks, ClientField.location, ClientField.details, ClientField.AbsentFrom, enrich,
    clientLocation, clientDetails, PrivacyMode.allowsGeolocation, PrivacyMode.allowsClientDetails]

theorem agreeExcept_enrich_strict :
    AgreeExcept [.visitorHash, .country]
      (enrich .strict hasher locate classify projectId p address userAgent now)
      (enrich .strict hasher locate' classify projectId p address' userAgent now) := by
  refine ⟨withoutClient_enrich .., fun x hx => ?_⟩
  cases x with
  | visitorHash => simp at hx
  | country => simp at hx
  | region => rfl
  | city => rfl
  | latitude => rfl
  | longitude => rfl
  | browser => rfl
  | os => rfl
  | device => rfl

theorem lacks_enrich_strict :
    (enrich .strict hasher locate classify projectId p address userAgent now).Lacks
      ClientField.preciseLocation := by
  simp [Event.Lacks, ClientField.preciseLocation, ClientField.AbsentFrom, enrich, clientLocation,
    Location.redact, PrivacyMode.allowsGeolocation, PrivacyMode.allowsPreciseLocation]

theorem agreeExcept_enrich_userAgent :
    AgreeExcept (.visitorHash :: p.openDetails)
      (enrich mode hasher locate classify projectId p address userAgent now)
      (enrich mode hasher locate classify projectId p address userAgent' now) := by
  obtain ⟨hbrowser, hos, hdevice⟩ :=
    clientDetails_eq_of_said mode classify p userAgent userAgent'
  refine ⟨withoutClient_enrich .., fun x hx => ?_⟩
  cases x with
  | visitorHash => simp at hx
  | country => rfl
  | region => rfl
  | city => rfl
  | latitude => rfl
  | longitude => rfl
  | browser => exact hbrowser (by simpa [Payload.openDetails, ClientField.details] using hx)
  | os => exact hos (by simpa [Payload.openDetails, ClientField.details] using hx)
  | device => exact hdevice (by simpa [Payload.openDetails, ClientField.details] using hx)

theorem agreeExcept_enrich_address :
    AgreeExcept (.visitorHash :: ClientField.location)
      (enrich mode hasher locate classify projectId p address userAgent now)
      (enrich mode hasher locate classify projectId p address' userAgent now) := by
  refine ⟨withoutClient_enrich .., fun x hx => ?_⟩
  cases x with
  | visitorHash => simp at hx
  | country => simp [ClientField.location] at hx
  | region => simp [ClientField.location] at hx
  | city => simp [ClientField.location] at hx
  | latitude => simp [ClientField.location] at hx
  | longitude => simp [ClientField.location] at hx
  | browser => rfl
  | os => rfl
  | device => rfl

/-- **Noninterference of privacy modes.** In the paranoid mode an event does not depend on the
client, the locator and the details in the payload, except by its visitor hash, and has neither a
location nor details. In the strict mode it does not depend on the address and the locator, except
by its visitor hash and the country, and has no other location. In every mode another user agent
changes only the visitor hash and details that the payload leaves open, and another address only
the visitor hash and the location. -/
theorem enrich_noninterference :
    (AgreeExcept [.visitorHash]
        (enrich .paranoid hasher locate classify projectId p address userAgent now)
        (enrich .paranoid hasher locate' classify projectId { p with browser, os, device } address'
          userAgent' now) ∧
      (enrich .paranoid hasher locate classify projectId p address userAgent now).Lacks
        (ClientField.location ++ ClientField.details)) ∧
    (AgreeExcept [.visitorHash, .country]
        (enrich .strict hasher locate classify projectId p address userAgent now)
        (enrich .strict hasher locate' classify projectId p address' userAgent now) ∧
      (enrich .strict hasher locate classify projectId p address userAgent now).Lacks
        ClientField.preciseLocation) ∧
    AgreeExcept (.visitorHash :: p.openDetails)
      (enrich mode hasher locate classify projectId p address userAgent now)
      (enrich mode hasher locate classify projectId p address userAgent' now) ∧
    AgreeExcept (.visitorHash :: ClientField.location)
      (enrich mode hasher locate classify projectId p address userAgent now)
      (enrich mode hasher locate classify projectId p address' userAgent now) :=
  ⟨⟨agreeExcept_enrich_paranoid ..,
      lacks_enrich_paranoid hasher locate classify projectId p address userAgent now⟩,
    ⟨agreeExcept_enrich_strict ..,
      lacks_enrich_strict hasher locate classify projectId p address userAgent now⟩,
    agreeExcept_enrich_userAgent .., agreeExcept_enrich_address ..⟩

end Enrich

end Footfall
