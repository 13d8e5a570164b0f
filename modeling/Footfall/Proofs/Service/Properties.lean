import Footfall.Proofs.Event.NormalForm
import Footfall.Proofs.Event.Sending
import Footfall.Proofs.Revenue.Amount
import Footfall.Proofs.Service.Collect

/-!
# The properties of stored events

The properties of an event arrive as part of a payload and are stored as text, and the revenue of
the event is read from that text later on, each time it is shown. Nothing is lost on the way.

* What collecting stores is the event of the payload that the body is read as
  (`Service.exists_stored_of_collect`), and its properties are the text of those of the payload.
* The text of an exact value is read back as that value (`Json.parse_compactText`), and the revenue
  is there exactly if the value has a number for it (`Event.revenue?_eq_some_iff`).

`Service.properties_survive` says this of every request that is accepted. The one exception is null:
it is taken for no properties, and nothing is stored of it, as `Service.null_properties_dropped`
shows of a sale.
-/

namespace Footfall

open Json

namespace Event

variable {e : Event}

/-- A stored event carries a value: the text of its properties is read as the value, and its revenue
is the number that the value has under the name `revenue`, if it has one. -/
structure Carries (e : Event) (v : Value) : Prop where
  text : ∃ t, e.properties = some t ∧ Json.parse t = some v
  revenue : ∀ x, e.revenue? = some x ↔
    ∃ fields n, v = .object fields ∧ ("revenue", .int n) ∈ fields ∧ x = Float.ofInt n

theorem carries_of_compactText {v : Value} (hv : v.Exact maxDepth) (hkind : e.kind = .custom)
    (ht : e.properties = some (compactText v)) : e.Carries v :=
  ⟨⟨_, ht, parse_compactText hv⟩,
    fun _ => revenue?_eq_some_iff hkind ht (parse_compactText hv) hv⟩

end Event

/-! ## Collecting -/

namespace Payload

variable {p : Payload}

theorem storedProperties_of_ne_null {v : Value} (hp : p.properties = some v) (hv : v ≠ .null) :
    p.storedProperties = some (compactText v) := by
  rw [storedProperties, hp, Option.filter_some, Value.isNull_eq_false_iff.2 hv]
  rfl

theorem storedProperties_eq_none_iff :
    p.storedProperties = none ↔ ∀ v ∈ p.properties, v = .null := by
  rw [← Option.not_isSome_iff_eq_none, isSome_storedProperties]
  simp only [not_exists, not_and, not_not]

end Payload

theorem byteLength_compactText (v : Value) :
    Text.byteLength (compactText v) = Text.utf8Length (compact v) := by
  rw [Text.byteLength, compactText, String.toList_ofList]

theorem readPayload_eq_ok_iff {body : String} {p : Payload} : readPayload body = .ok p ↔
    ¬maxBodyBytes < Text.byteLength body ∧ Payload.parse body = some p ∧ p.validate = .ok () := by
  rw [readPayload]
  split_ifs with hlong
  · simp [hlong]
  · cases Payload.parse body with
    | none => simp
    | some q =>
      cases hq : q.validate with
      | error e => grind
      | ok u => grind

namespace Service

variable {s : Service} {o : Occasion} {r : Http.Request} {key : String}

theorem exists_stored_of_accept (h : (s.accept o r key).1 = .ok ()) :
    ∃ p e, Payload.parse r.body = some p ∧ e.kind = p.kind ∧ e.properties = p.storedProperties ∧
      (s.accept o r key).2.store.events = s.store.events ++ [e] := by
  rw [accept] at h ⊢
  cases hproject : s.store.projectOfKey? key with
  | error f => simp [hproject] at h
  | ok found =>
    cases found with
    | none => simp [hproject] at h
    | some project =>
      cases hbody : readPayload r.body with
      | error e => simp [hproject, hbody] at h
      | ok p =>
        simp only [hproject, hbody, record_eq] at h ⊢
        split_ifs at h ⊢
        obtain ⟨-, hparse, -⟩ := readPayload_eq_ok_iff.1 hbody
        exact ⟨p, _, hparse, rfl, rfl, rfl⟩

/-- What collecting stores for a request that it accepts is the event of its payload. -/
theorem exists_stored_of_collect (h : (s.collect o r).1 = .ok ()) :
    ∃ p e, Payload.parse r.body = some p ∧ e.kind = p.kind ∧ e.properties = p.storedProperties ∧
      (s.collect o r).2.store.events = s.store.events ++ [e] := by
  cases hkey : collectKey r with
  | none =>
    rw [collect_of_keyless hkey] at h
    cases h
  | some key =>
    rw [collect_of_key hkey] at h ⊢
    split at h
    · cases h
    · exact exists_stored_of_accept h

/-- The payload is the one that the body of the request is read as. -/
theorem exists_stored_of_parse {p : Payload} (hbody : Payload.parse r.body = some p)
    (h : (s.collect o r).1 = .ok ()) :
    ∃ e : Event, e.kind = p.kind ∧ e.properties = p.storedProperties ∧
      (s.collect o r).2.store.events = s.store.events ++ [e] := by
  obtain ⟨q, e, hq, hstored⟩ := exists_stored_of_collect h
  obtain rfl := Option.some.inj (hbody.symm.trans hq)
  exact ⟨e, hstored⟩

theorem collect_eq_ok_iff (hkey : collectKey r = some key)
    (hprojects : StorePart.projects ∉ s.store.failing)
    (hevents : StorePart.events ∉ s.store.failing) :
    (s.collect o r).1 = .ok () ↔ firstClosed (s.gates o r key) = 202 := by
  rw [← collectStatus_eq_iff, status_collect hkey hprojects hevents]

/-- A new service with one site accepts a body for it that is short enough and can be read. -/
theorem exists_accepts {body : String} (hshort : ¬maxBodyBytes < Text.byteLength body)
    (hreadable : isReadable body = true) :
    ∃ (s : Service) (o : Occasion),
      withQueue (Settings.ofSalt "0123456789abcdef0123456789abcdef") Locator.blind
          (fun _ => none) { projects := [⟨"p", "Site", "example.com", "k", none, ""⟩] } 8 = .ok s ∧
        s.store.events = [] ∧ (s.collect o (.posted "k" body)).1 = .ok () := by
  obtain ⟨s, hnew, hstore, hadmission⟩ : ∃ s : Service,
      withQueue (Settings.ofSalt "0123456789abcdef0123456789abcdef") Locator.blind
          (fun _ => none) { projects := [⟨"p", "Site", "example.com", "k", none, ""⟩] } 8 = .ok s ∧
        s.store = { projects := [⟨"p", "Site", "example.com", "k", none, ""⟩] } ∧
        s.admission = .new 100 1000 := ⟨_, rfl, rfl, rfl⟩
  let o : Occasion := ⟨0, ⟨⟨0, 0⟩, fun _ => ""⟩⟩
  let r : Http.Request := .posted "k" body
  have hkey : collectKey r = some "k" := rfl
  have hcheck : (s.admission.check (clientAddress r) "k" o.clock).1 = .allowed := by
    rw [hadmission, show clientAddress r = "unknown" from rfl]
    decide +kernel
  have hknown : (s.store.projects.all fun p => p.apiKey != "k") = false := by
    rw [hstore]
    rfl
  refine ⟨s, o, hnew, by rw [hstore], ?_⟩
  rw [collect_eq_ok_iff hkey (by simp [hstore]) (by simp [hstore]), gates, hcheck, hknown,
    show r.body = body from rfl, decide_eq_false hshort, hreadable]
  rfl

/-- **Properties survive storage.** Let a payload of a custom event have properties that are an
exact value, but not null. If the payload can be sent, its JSON text is read as the payload. Every
request whose body is read as the payload, if it is accepted, adds one event to the store, and the
event carries the value.

A request whose body is read as a payload that has null for properties, or none, also adds one event
if it is accepted, and the event has no properties. -/
theorem properties_survive :
    (∀ (p : Payload) (v : Value), p.kind = .custom → p.properties = some v → v.Exact maxDepth →
      v ≠ .null →
      (p.IsSendable → Payload.parse (compactText p.toJson) = some p) ∧
        ∀ (s : Service) (o : Occasion) (r : Http.Request), Payload.parse r.body = some p →
          (s.collect o r).1 = .ok () →
          ∃ e : Event, (s.collect o r).2.store.events = s.store.events ++ [e] ∧ e.Carries v) ∧
    ∀ p : Payload, (∀ v ∈ p.properties, v = .null) →
      ∀ (s : Service) (o : Occasion) (r : Http.Request), Payload.parse r.body = some p →
        (s.collect o r).1 = .ok () →
        ∃ e : Event, (s.collect o r).2.store.events = s.store.events ++ [e] ∧
          e.properties = none := by
  refine ⟨fun p v hkind hp hv hnull => ⟨Payload.parse_compactText_toJson, ?_⟩, ?_⟩
  · intro s o r hbody haccepted
    obtain ⟨e, hekind, heproperties, hstored⟩ := exists_stored_of_parse hbody haccepted
    exact ⟨e, hstored, Event.carries_of_compactText hv (hekind.trans hkind)
      (heproperties.trans (Payload.storedProperties_of_ne_null hp hnull))⟩
  · intro p hnull s o r hbody haccepted
    obtain ⟨e, -, heproperties, hstored⟩ := exists_stored_of_parse hbody haccepted
    exact ⟨e, hstored, heproperties.trans (Payload.storedProperties_eq_none_iff.2 hnull)⟩

/-- A sale for 5 is sent, and the stored event has the revenue. -/
theorem properties_survive_sale :
    ∃ (s : Service) (o : Occasion) (r : Http.Request) (p : Payload) (v : Value) (e : Event),
      withQueue (Settings.ofSalt "0123456789abcdef0123456789abcdef") Locator.blind
          (fun _ => none) { projects := [⟨"p", "Site", "example.com", "k", none, ""⟩] } 8 = .ok s ∧
        p.kind = .custom ∧ p.properties = some v ∧ v = .object [("revenue", .int 5)] ∧
        v.Exact maxDepth ∧ v ≠ .null ∧ p.IsSendable ∧ r = .posted "k" (compactText p.toJson) ∧
        (s.collect o r).1 = .ok () ∧ (s.collect o r).2.store.events = [e] ∧ e.Carries v ∧
        e.revenue? = some (Float.ofInt 5) := by
  let v : Value := .object [("revenue", .int 5)]
  let p : Payload :=
    { path := "/", sessionId := "s", kind := .custom, eventName := some "Sale"
      properties := some v }
  have hexact (depth : ℕ) : v.Exact (depth + 1) :=
    .object (List.pairwise_singleton _ _)
      (List.forall_mem_singleton.2 (.int (by decide) (by decide)))
  have hnull : v ≠ .null := by simp [v]
  have hsendable : p.IsSendable :=
    ⟨by simp [p], fun w hw => Option.some.inj hw ▸ ⟨hexact _, hnull⟩⟩
  obtain ⟨hparse, hstored⟩ := properties_survive.1 p v rfl rfl (hexact _) hnull
  have hshort : ¬maxBodyBytes < Text.byteLength (compactText p.toJson) := by
    rw [byteLength_compactText]
    decide +kernel
  have hreadable : isReadable (compactText p.toJson) = true := by
    rw [isReadable, hparse hsendable]
    decide +kernel
  obtain ⟨s, o, hnew, hempty, haccepted⟩ := exists_accepts hshort hreadable
  let r : Http.Request := .posted "k" (compactText p.toJson)
  have hbody : Payload.parse r.body = some p := hparse hsendable
  obtain ⟨e, hevents, hcarries⟩ := hstored s o r hbody haccepted
  rw [hempty, List.nil_append] at hevents
  exact ⟨s, o, r, p, v, e, hnew, rfl, rfl, rfl, hexact _, hnull, hsendable, rfl, haccepted, hevents,
    hcarries, (hcarries.revenue _).2 ⟨_, 5, rfl, List.mem_singleton_self _, rfl⟩⟩

/-- Null properties that are sent with a sale are not stored. -/
theorem null_properties_dropped :
    ∃ (s : Service) (o : Occasion) (r : Http.Request) (fields : List (String × Value)) (e : Event),
      withQueue (Settings.ofSalt "0123456789abcdef0123456789abcdef") Locator.blind
          (fun _ => none) { projects := [⟨"p", "Site", "example.com", "k", none, ""⟩] } 8 = .ok s ∧
        r = .posted "k" (compactText (.object fields)) ∧ ("properties", .null) ∈ fields ∧
        ("type", .string "custom") ∈ fields ∧ Value.null.Exact maxDepth ∧
        (s.collect o r).1 = .ok () ∧ (s.collect o r).2.store.events = [e] ∧ e.kind = .custom ∧
        ¬∃ t, e.properties = some t ∧ Json.parse t = some .null := by
  let fields : List (String × Value) :=
    [("eventName", .string "Sale"), ("path", .string "/"), ("properties", .null),
      ("sessionId", .string "s"), ("type", .string "custom")]
  have hshort : ¬maxBodyBytes < Text.byteLength (compactText (.object fields)) := by
    rw [byteLength_compactText]
    decide +kernel
  obtain ⟨s, o, hnew, hempty, haccepted⟩ :=
    exists_accepts hshort (by decide +kernel : isReadable (compactText (.object fields)) = true)
  obtain ⟨p, e, hparse, hkind, hproperties, hevents⟩ := exists_stored_of_collect haccepted
  have hread : (Payload.parse (compactText (.object fields))).map
      (fun p => (p.kind, p.storedProperties)) = some (.custom, none) := by decide +kernel
  rw [show Payload.parse (compactText (.object fields)) = some p from hparse, Option.map_some,
    Option.some_inj, Prod.mk.injEq] at hread
  rw [hempty, List.nil_append] at hevents
  refine ⟨s, o, _, fields, e, hnew, rfl, by simp [fields], by simp [fields], .null, haccepted,
    hevents, hkind.trans hread.1, ?_⟩
  rw [hproperties, hread.2]
  rintro ⟨t, ht, -⟩
  cases ht

end Service

end Footfall
