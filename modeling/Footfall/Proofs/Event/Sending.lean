import Footfall.Event.PayloadReader
import Footfall.Proofs.Json.RoundTrip

/-!
# Sending payloads

A payload can be written as JSON, with null for what is absent, and sent as the body of a request.
What arrives is the payload, if its depth has 32 bits and its properties are an exact value that is
not null (`Payload.IsSendable`). A payload without properties has null for them in its text, and it
arrives without properties.

* Every field is read back from its own value (`read_value`). The value of an optional field is told
  from null by its first character (`readOptional_some`).
* The fields come in the order of their names, each of them once, so none is refused for having been
  read before (`readNamed_compactFields`).

`parse_compactText_toJson` says that the payload that is read from the whole text is the one that
was written.
-/

namespace Footfall

open Json

namespace Payload

/-! ## What is sent -/

/-- The value of a field of a payload in JSON. -/
def value (p : Payload) : Field → Value
  | .path => .string p.path
  | .referrer => .ofText? p.referrer
  | .session => .string p.sessionId
  | .kind => .string p.kind.name
  | .eventName => .ofText? p.eventName
  | .properties => p.properties.getD .null
  | .browser => .ofText? p.browser
  | .os => .ofText? p.os
  | .device => .ofText? p.device
  | .utmSource => .ofText? p.utmSource
  | .utmMedium => .ofText? p.utmMedium
  | .utmCampaign => .ofText? p.utmCampaign
  | .scrollDepth => (p.scrollDepth.map Value.int).getD .null
  | .targetUrl => .ofText? p.targetUrl

/-- The fields in the order of their names. -/
def Field.sorted : List Field :=
  [.browser, .device, .eventName, .os, .path, .properties, .referrer, .scrollDepth, .session,
    .targetUrl, .kind, .utmCampaign, .utmMedium, .utmSource]

theorem toJson_eq (p : Payload) :
    p.toJson = .object (Field.sorted.map fun f => (f.name, p.value f)) := rfl

/-- The payload can be sent as JSON: its depth has 32 bits, and its properties are an exact value
that fits into the payload and is not null. -/
structure IsSendable (p : Payload) : Prop where
  scrollDepth : ∀ d ∈ p.scrollDepth, -2147483648 ≤ d ∧ d < 2147483648
  properties : ∀ v ∈ p.properties, v.Exact (maxDepth - 1) ∧ v ≠ .null

/-! ## Reading a field -/

/-- The draft after a field of the payload. -/
def Draft.take (p : Payload) (d : Draft) (f : Field) : Draft :=
  let d := { d with seen := f :: d.seen }
  match f with
  | .path => { d with path := some p.path }
  | .referrer => { d with referrer := p.referrer }
  | .session => { d with sessionId := some p.sessionId }
  | .kind => { d with kind := some p.kind }
  | .eventName => { d with eventName := p.eventName }
  | .properties => { d with properties := p.properties }
  | .browser => { d with browser := p.browser }
  | .os => { d with os := p.os }
  | .device => { d with device := p.device }
  | .utmSource => { d with utmSource := p.utmSource }
  | .utmMedium => { d with utmMedium := p.utmMedium }
  | .utmCampaign => { d with utmCampaign := p.utmCampaign }
  | .scrollDepth => { d with scrollDepth := p.scrollDepth }
  | .targetUrl => { d with targetUrl := p.targetUrl }

theorem readText_string (s : String) (rest : List Char) :
    readText (compact (.string s) ++ rest) = some (s, rest) :=
  string_quotedString s rest

theorem readOptional_some {α : Type} {read : List Char → Option (α × List Char)} {a : α} {c : Char}
    {cs rest : List Char} (hspace : isSpace c = false) (hnull : c ≠ 'n')
    (hread : read (c :: cs) = some (a, rest)) :
    readOptional read (c :: cs) = some (some a, rest) := by
  rw [readOptional, skipSpace_cons hspace]
  split
  · next heq => exact absurd (List.cons.inj heq).1 hnull
  · rw [hread]
    rfl

theorem readOptional_ofText? (t : Option String) (rest : List Char) :
    readOptional readText (compact (.ofText? t) ++ rest) = some (t, rest) := by
  cases t with
  | none => rfl
  | some s => exact readOptional_some rfl (by decide) (readText_string s rest)

theorem readKind_name (k : EventKind) (rest : List Char) :
    readKind (compact (.string k.name) ++ rest) = some (k, rest) := by
  have hname : EventKind.ofName? k.name = some k := by cases k <;> decide
  change (Json.string (quotedString k.name ++ rest)).bind _ = _
  rw [string_quotedString]
  change (EventKind.ofName? k.name).bind _ = _
  rw [hname]
  rfl

theorem readDepth_int {d : ℤ} (hmin : -2147483648 ≤ d) (hmax : d < 2147483648) {rest : List Char}
    (hrest : Closes rest) : readDepth (compact (.int d) ++ rest) = some (d, rest) := by
  obtain ⟨c, r, hc, hstart⟩ := exists_integerText_cons d
  have hskip : skipSpace (integerText d ++ rest) = integerText d ++ rest := by
    rw [hc, List.cons_append, skipSpace_cons (isSpace_of_startsNumber hstart)]
  rw [compact, readDepth, hskip, Numeral.scan_integerText d hrest]
  change (Numeral.value _).bind _ = _
  rw [Numeral.value_ofInt (by omega) (by omega)]
  exact if_pos ⟨hmin, hmax⟩

theorem readProperties_compact {v : Value} (h : v.Exact (maxDepth - 1)) {rest : List Char}
    (hrest : Closes rest) : readProperties (compact v ++ rest) = some (v, rest) := by
  refine readsBack_of_exact h _ rest ?_ hrest
  rw [fuelFor, List.length_append]
  omega

theorem readOptional_exact {α : Type} {read : List Char → Option (α × List Char)} {a : α}
    {depth : ℕ} {v : Value} (h : v.Exact depth) (hnull : v ≠ .null) {rest : List Char}
    (hread : read (compact v ++ rest) = some (a, rest)) :
    readOptional read (compact v ++ rest) = some (some a, rest) := by
  obtain ⟨c, r, hc, hspace, -, hn⟩ := exists_compact_cons h
  rw [hc] at hread ⊢
  exact readOptional_some hspace (hn hnull) hread

theorem readOptional_depth {t : Option ℤ} (h : ∀ d ∈ t, -2147483648 ≤ d ∧ d < 2147483648)
    {rest : List Char} (hrest : Closes rest) :
    readOptional readDepth (compact ((t.map Value.int).getD .null) ++ rest) = some (t, rest) := by
  cases t with
  | none => rfl
  | some d =>
    obtain ⟨hmin, hmax⟩ := h d rfl
    have hexact : (Value.int d).Exact 0 := .int (by omega) (by omega)
    exact readOptional_exact hexact (by simp) (readDepth_int hmin hmax hrest)

theorem readOptional_properties {t : Option Value}
    (h : ∀ v ∈ t, v.Exact (maxDepth - 1) ∧ v ≠ .null) {rest : List Char} (hrest : Closes rest) :
    readOptional readProperties (compact (t.getD .null) ++ rest) = some (t, rest) := by
  cases t with
  | none => rfl
  | some v =>
    obtain ⟨hexact, hnull⟩ := h v rfl
    exact readOptional_exact hexact hnull (readProperties_compact hexact hrest)

theorem read_value {p : Payload} (h : p.IsSendable) {d : Draft} {f : Field} (hf : f ∉ d.seen)
    {rest : List Char} (hrest : Closes rest) :
    d.read f (compact (p.value f) ++ rest) = some (d.take p f, rest) := by
  rw [Draft.read, if_neg hf]
  cases f
  case path => simp only [value, readText_string]; rfl
  case session => simp only [value, readText_string]; rfl
  case kind => simp only [value, readKind_name]; rfl
  case properties => simp only [value, readOptional_properties h.properties hrest]; rfl
  case scrollDepth => simp only [value, readOptional_depth h.scrollDepth hrest]; rfl
  all_goals
    simp only [value, readOptional_ofText?]
    rfl

/-! ## Reading a payload -/

theorem ofName?_name (f : Field) : Field.ofName? f.name = some f := by
  cases f <;> decide

theorem readNamed_last {d d' : Draft} {f : Field} {fuel : ℕ} {cs rest : List Char}
    (h : d.read f cs = some (d', '\x7d' :: rest)) :
    readNamed d (fuel + 1) (quotedString f.name ++ ':' :: cs) = some (d', rest) := by
  have hname : Json.string (skipSpace (quotedString f.name ++ ':' :: cs)) =
      some (f.name, ':' :: cs) := string_quotedString f.name _
  have hcolon : Text.strip? [':'] (skipSpace (':' :: cs)) = some cs := rfl
  simp only [readNamed, hname, Option.bind_eq_bind, Option.bind_some, hcolon, ofName?_name, h]
  rfl

theorem readNamed_more {d d' : Draft} {f : Field} {fuel : ℕ} {cs r : List Char}
    (h : d.read f cs = some (d', ',' :: r)) :
    readNamed d (fuel + 1) (quotedString f.name ++ ':' :: cs) = readNamed d' fuel r := by
  have hname : Json.string (skipSpace (quotedString f.name ++ ':' :: cs)) =
      some (f.name, ':' :: cs) := string_quotedString f.name _
  have hcolon : Text.strip? [':'] (skipSpace (':' :: cs)) = some cs := rfl
  simp only [readNamed, hname, Option.bind_eq_bind, Option.bind_some, hcolon, ofName?_name, h]
  rfl

theorem seen_take (p : Payload) (d : Draft) (f : Field) : (d.take p f).seen = f :: d.seen := by
  cases f <;> rfl

/-- The fields of a payload are read one after the other. -/
theorem readNamed_compactFields {p : Payload} (h : p.IsSendable) {d : Draft} {fs : List Field}
    (hne : fs ≠ []) (hnew : (d.seen.reverse ++ fs).Nodup) {fuel : ℕ} (hfuel : fs.length ≤ fuel)
    (rest : List Char) :
    readNamed d fuel (compactFields (fs.map fun f => (f.name, p.value f)) ++ rest) =
      some (fs.foldl (Draft.take p) d, rest) := by
  induction fs generalizing d fuel with
  | nil => exact absurd rfl hne
  | cons f fs ih =>
    obtain ⟨fuel, rfl⟩ := Nat.exists_eq_add_one.2 (Nat.lt_of_lt_of_le (Nat.succ_pos _) hfuel)
    have hf : f ∉ d.seen := fun hmem =>
      (List.nodup_append.1 hnew).2.2 f (List.mem_reverse.2 hmem) f List.mem_cons_self rfl
    cases fs with
    | nil =>
      have hread := read_value h hf (.inr ⟨rest, by simp⟩ : Closes ('\x7d' :: rest))
      rw [List.map_singleton, compactFields, List.append_assoc, List.append_assoc]
      exact readNamed_last hread
    | cons g r =>
      have hread := read_value h hf (.inr ⟨_, .inl rfl⟩ : Closes (',' ::
        (compactFields ((g :: r).map fun f => (f.name, p.value f)) ++ rest)))
      have hnext : ((d.take p f).seen.reverse ++ g :: r).Nodup := by
        rwa [seen_take, List.reverse_cons, List.append_assoc]
      have hrest := ih (by simp) hnext (Nat.le_of_succ_le_succ hfuel)
      rw [List.foldl_cons, ← hrest, List.map_cons, List.map_cons, compactFields, List.append_assoc,
        List.append_assoc]
      exact readNamed_more hread

theorem length_le_compactFields (fs : List (String × Value)) :
    fs.length ≤ (compactFields fs).length := by
  induction fs with
  | nil => exact Nat.zero_le _
  | cons f fs ih =>
    cases fs with
    | nil =>
      simp only [compactFields, List.length_append, List.length_cons]
      omega
    | cons g r =>
      simp only [compactFields, List.length_append, List.length_cons] at ih ⊢
      omega

/-- **A payload that is written is read back.** -/
theorem parse_compactText_toJson {p : Payload} (h : p.IsSendable) :
    Payload.parse (compactText p.toJson) = some p := by
  let text := compactFields (Field.sorted.map fun f => (f.name, p.value f))
  have hfuel : Field.sorted.length ≤ fuelFor text := by
    have hlength : Field.sorted.length ≤ text.length :=
      (List.length_map _).symm.trans_le (length_le_compactFields _)
    rw [fuelFor]
    omega
  have hread : readNamed {} (fuelFor text) (text ++ []) =
      some (Field.sorted.foldl (Draft.take p) {}, []) :=
    readNamed_compactFields h (by decide) (by decide) hfuel []
  have hdraft : readDraft ('\x7b' :: text) = readNamed {} (fuelFor text) text := rfl
  rw [List.append_nil] at hread
  rw [Payload.parse, compactText, String.toList_ofList, toJson_eq, compact, hdraft, hread]
  rfl

end Payload

end Footfall
