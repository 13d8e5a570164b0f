import Footfall.Proofs.Text.Blank
import Footfall.Service.Enrich

/-!
# The normal form of stored events

Events are counted by their names, paths, referrers and campaign values, so it matters in which form
these are stored. Two rules work together for that: what a valid payload may say, and what enriching
makes of it.

* Only a valid payload of a custom event has a name, and then one that is not blank
  (`Payload.hasName_of_validate`).
* An optional text is stored without the blanks around it, or not at all (`Text.IsKept`).
* A depth is a percentage (`clampDepth_mem_Icc`), and null properties are no properties
  (`Payload.isSome_storedProperties`).

`isNormalForm_enrich` puts them together: the event that is stored for a valid payload is in normal
form (`Event.IsNormalForm`), whatever the privacy mode, the client and the time.
-/

namespace Footfall

/-- An event in the normal form of what a payload says of it. -/
structure Event.IsNormalForm (projectId : String) (p : Payload) (now : Timestamp) (e : Event) :
    Prop where
  /-- The store has not numbered the event yet. -/
  id : e.id = 0
  projectId : e.projectId = projectId
  createdAt : e.createdAt = now
  kind : e.kind = p.kind
  path : e.path = p.path
  sessionId : e.sessionId = p.sessionId
  named : e.eventName.isSome = true ↔ p.kind = .custom
  /-- The name is the trimmed name of the payload, and not empty. -/
  eventName : ∀ n ∈ e.eventName, n ≠ "" ∧ ∃ s ∈ p.eventName, Text.IsTrimOf s n
  referrer : Text.IsKept p.referrer e.referrer
  utmSource : Text.IsKept p.utmSource e.utmSource
  utmMedium : Text.IsKept p.utmMedium e.utmMedium
  utmCampaign : Text.IsKept p.utmCampaign e.utmCampaign
  targetUrl : Text.IsKept p.targetUrl e.targetUrl
  scrolled : e.scrollDepth.isSome = true ↔ p.scrollDepth.isSome = true
  scrollDepth : ∀ d ∈ e.scrollDepth, 0 ≤ d ∧ d ≤ 100
  properties : e.properties.isSome = true ↔ ∃ v ∈ p.properties, v ≠ .null

/-! ## The parts of an event -/

namespace Payload

variable {p : Payload}

theorem hasName_iff : p.hasName = true ↔ Text.present p.eventName ≠ none := by
  rw [hasName, ne_eq, Text.present_eq_none_iff]
  cases p.eventName <;> simp

/-- A valid payload has a name exactly if its event is a custom one. -/
theorem hasName_of_validate (h : p.validate = .ok ()) : p.hasName = decide (p.kind = .custom) := by
  rw [validate] at h
  split_ifs at h
  cases hkind : decide (p.kind = .custom) <;> cases hname : p.hasName <;> simp_all

theorem isSome_storedProperties :
    p.storedProperties.isSome = true ↔ ∃ v ∈ p.properties, v ≠ .null := by
  simp only [storedProperties, Option.isSome_map, Option.isSome_iff_exists,
    Option.filter_eq_some_iff, Bool.not_eq_true', Json.Value.isNull_eq_false_iff, Option.mem_def]

end Payload

theorem clampDepth_mem_Icc (depth : ℤ) : 0 ≤ clampDepth depth ∧ clampDepth depth ≤ 100 := by
  unfold clampDepth
  omega

/-- The name of a custom event of a valid payload, as it is stored. -/
theorem storedName_of_validate {p : Payload} (h : p.validate = .ok ())
    (hcustom : p.kind = .custom) :
    ∃ s ∈ p.eventName, Text.trim s ≠ "" := by
  have hname : p.hasName = true := by
    rw [Payload.hasName_of_validate h, hcustom]
    rfl
  obtain ⟨n, hn⟩ := Option.ne_none_iff_exists'.1 (Payload.hasName_iff.1 hname)
  obtain ⟨hmap, hne⟩ := Text.present_eq_some_iff.1 hn
  obtain ⟨s, hs, rfl⟩ := Option.map_eq_some_iff.1 hmap
  exact ⟨s, hs, hne⟩

/-! ## The whole event -/

/-- **Stored events are in normal form.** -/
theorem isNormalForm_enrich {p : Payload} (h : p.validate = .ok ()) (mode : PrivacyMode)
    (hasher : Visitor.Hasher) (locate : Locator) (classify : Classifier)
    (projectId address userAgent : String) (now : Timestamp) :
    (enrich mode hasher locate classify projectId p address userAgent now).IsNormalForm
      projectId p now where
  id := rfl
  projectId := rfl
  createdAt := rfl
  kind := rfl
  path := rfl
  sessionId := rfl
  named := by
    constructor
    · intro hsome
      by_contra hkind
      simp [enrich, hkind] at hsome
    · intro hcustom
      obtain ⟨s, hs, -⟩ := storedName_of_validate h hcustom
      simp [enrich, hcustom, Option.mem_def.1 hs]
  eventName n hn := by
    by_cases hcustom : p.kind = .custom
    · obtain ⟨s, hs, hne⟩ := storedName_of_validate h hcustom
      obtain rfl : Text.trim s = n := by simpa [enrich, hcustom, Option.mem_def.1 hs] using hn
      exact ⟨hne, s, hs, Text.isTrimOf_trim s⟩
    · simp [enrich, hcustom] at hn
  referrer := Text.isKept_present _
  utmSource := Text.isKept_present _
  utmMedium := Text.isKept_present _
  utmCampaign := Text.isKept_present _
  targetUrl := Text.isKept_present _
  scrolled := by rw [enrich, Option.isSome_map]
  scrollDepth d hd := by
    obtain ⟨depth, -, rfl⟩ := Option.map_eq_some_iff.1 (Option.mem_def.1 hd)
    exact clampDepth_mem_Icc depth
  properties := Payload.isSome_storedProperties

/-- A sale with blanks around its name, a blank referrer, null properties and a scroll beyond the
end of the page. -/
theorem isNormalForm_enrich_sale :
    ∃ (p : Payload) (e : Event), p.validate = .ok () ∧ p.eventName = some " Sale\n" ∧
      p.referrer = some "  " ∧ p.properties = some .null ∧ p.scrollDepth = some 250 ∧
      e = enrich .paranoid ⟨"0123456789abcdef0123456789abcdef", 24⟩ Locator.blind
        (fun _ => none) "p" p "203.0.113.7" "" ⟨0, 0⟩ ∧
      e.IsNormalForm "p" p ⟨0, 0⟩ ∧ e.eventName = some "Sale" ∧ e.referrer = none ∧
      e.properties = none ∧ e.scrollDepth = some 100 := by
  refine ⟨{ path := "/", sessionId := "s", kind := .custom, eventName := some " Sale\n"
            referrer := some "  ", properties := some .null, scrollDepth := some 250 }, _,
    by decide +kernel, rfl, rfl, rfl, rfl, rfl,
    isNormalForm_enrich (by decide +kernel) .paranoid ⟨"0123456789abcdef0123456789abcdef", 24⟩
      Locator.blind (fun _ => none) "p" "203.0.113.7" "" ⟨0, 0⟩,
    by decide +kernel, by decide +kernel, rfl, by decide +kernel⟩

end Footfall
