import Footfall.Proofs.Report.TopRows
import Footfall.Proofs.Text.Lowercase
import Footfall.Report.Basic

/-!
# Which referrers share a domain

A web referrer (`Referrer.Web`) is a scheme, a host and a tail: nothing, or a path, a query or a
fragment. Its domain is meant to be its host in lower case. That is so when the scheme is written in
lower case (`Web.domain_of_isPlain`): one copy of it is taken away and, since a host does not end
with a colon, no second one, and the rest up to the tail is the host. A scheme with a capital is not
recognised, and its own letters with the colon are taken for the domain
(`Web.domain_of_not_isPlain`).

`domain_eq_host_iff` puts the two together, and says what they mean for the rows of a report.
-/

namespace Footfall

namespace Text

variable {p cs : List Char}

/-! ## Leading copies of a text -/

theorem strip?_eq_some_iff {rest : List Char} : strip? p cs = some rest ↔ cs = p ++ rest := by
  induction p generalizing cs with
  | nil => simp [strip?]
  | cons a p ih =>
    cases cs with
    | nil => simp [strip?]
    | cons c cs =>
      rw [strip?, List.cons_append, List.cons.injEq]
      by_cases h : a = c
      · rw [if_pos h, ih, eq_comm (a := c), and_iff_right h]
      · rw [if_neg h]
        simp [Ne.symm h]

theorem strip?_append (p rest : List Char) : strip? p (p ++ rest) = some rest :=
  strip?_eq_some_iff.2 rfl

theorem strip?_of_not_prefix (h : ¬p <+: cs) : strip? p cs = none := by
  refine Option.eq_none_iff_forall_not_mem.2 fun rest hrest => h ⟨rest, ?_⟩
  exact (strip?_eq_some_iff.1 hrest).symm

theorem stripAll_of_not_prefix (h : ¬p <+: cs) : stripAll p cs = cs := by
  rw [stripAll]
  cases cs.length with
  | zero => rfl
  | succ n => rw [stripTimes, strip?_of_not_prefix h]

theorem stripTimes_nil (hp : p ≠ []) (n : Nat) : stripTimes p n [] = [] := by
  cases n with
  | zero => rfl
  | succ n => rw [stripTimes, strip?_of_not_prefix (mt List.prefix_nil.1 hp)]

/-- A text has no more copies of a non-empty one than it has characters, so it does not matter how
many more are looked for. -/
theorem stripTimes_of_length_le (hp : p ≠ []) {n m : Nat} (hn : cs.length ≤ n)
    (hm : cs.length ≤ m) : stripTimes p n cs = stripTimes p m cs := by
  induction n generalizing m cs with
  | zero =>
    obtain rfl := List.length_eq_zero_iff.1 (Nat.le_zero.1 hn)
    rw [stripTimes_nil hp, stripTimes_nil hp]
  | succ n ih =>
    cases m with
    | zero =>
      obtain rfl := List.length_eq_zero_iff.1 (Nat.le_zero.1 hm)
      rw [stripTimes_nil hp, stripTimes_nil hp]
    | succ m =>
      rw [stripTimes, stripTimes]
      cases hrest : strip? p cs with
      | none => rfl
      | some rest =>
        have hlength : cs.length = p.length + rest.length := by
          rw [strip?_eq_some_iff.1 hrest, List.length_append]
        have hpos : 0 < p.length := List.length_pos_iff.2 hp
        exact ih (by omega) (by omega)

theorem stripAll_append (hp : p ≠ []) : stripAll p (p ++ cs) = stripAll p cs := by
  have hpos : 0 < p.length := List.length_pos_iff.2 hp
  obtain ⟨n, hn⟩ : ∃ n, (p ++ cs).length = n + 1 :=
    Nat.exists_eq_add_one.2 (by rw [List.length_append]; omega)
  rw [stripAll, hn, stripTimes, strip?_append]
  rw [List.length_append] at hn
  exact stripTimes_of_length_le hp (by omega) (Nat.le_refl _)

/-- What stands before the first character of a class. -/
theorem before_append {f : Char → Bool} {rest : List Char} (hcs : ∀ c ∈ cs, f c = false)
    (hrest : ∀ c ∈ rest.head?, f c = true) : before f (cs ++ rest) = cs := by
  have hstop : rest.takeWhile (fun c => !f c) = [] := by
    cases rest with
    | nil => rfl
    | cons c r => simp [hrest c rfl]
  rw [before, List.takeWhile_append_of_pos (by simpa using hcs), hstop, List.append_nil]

end Text

namespace Referrer

open Text

/-- A referrer from the web: `http` or `https` in any case, a host without the characters that end
it and without an empty port, and what follows the host. -/
structure Web where
  scheme : String
  host : String
  tail : String
  isHttp : lowercaseAscii scheme = "http" ∨ lowercaseAscii scheme = "https"
  host_ne_empty : host ≠ ""
  host_within : ∀ c ∈ host.toList, endsDomain c = false
  host_getLast? : host.toList.getLast? ≠ some ':'
  tail_head? : ∀ c ∈ tail.toList.head?, endsDomain c = true

/-- A scheme that is not taken away ends, with its colon, at its first slash. -/
theorem before_slash {name : List Char} (hname : ∀ c ∈ name, endsDomain c = false)
    (rest : List Char) : before endsDomain (name ++ ':' :: '/' :: rest) = name ++ [':'] := by
  have hcolon : ∀ c ∈ name ++ [':'], endsDomain c = false :=
    List.forall_mem_append.2 ⟨hname, List.forall_mem_singleton.2 rfl⟩
  rw [List.append_cons]
  exact before_append hcolon (by simp [endsDomain])

namespace Web

/-- The text of the referrer. -/
def text (w : Web) : String := w.scheme ++ "://" ++ w.host ++ w.tail

/-- The scheme is written in lower case. -/
def IsPlain (w : Web) : Prop := w.scheme = "http" ∨ w.scheme = "https"

/-- The hosts are the same but for the case of the letters `A` to `Z`. -/
def SameHost (w v : Web) : Prop := lowercaseAscii w.host = lowercaseAscii v.host

variable (w : Web)

theorem toList_text :
    w.text.toList = w.scheme.toList ++ ':' :: '/' :: '/' :: (w.host.toList ++ w.tail.toList) := by
  simp [text]

/-! ## Schemes -/

theorem isAlpha_of_mem_scheme {c : Char} (hc : c ∈ w.scheme.toList) : c.isAlpha = true := by
  have hlower : c.toLower ∈ (lowercaseAscii w.scheme).toList := by
    rw [lowercaseAscii, String.toList_ofList]
    exact List.mem_map_of_mem hc
  have hletters : ∀ d ∈ "http".toList ++ "https".toList, d.isAlpha = true := by simp
  rw [← Text.isAlpha_toLower]
  refine hletters _ (List.mem_append.2 ?_)
  rcases w.isHttp with h | h
  · exact .inl (h ▸ hlower)
  · exact .inr (h ▸ hlower)

theorem not_mem_scheme {c : Char} (hc : c.isAlpha = false) : c ∉ w.scheme.toList := by
  intro hmem
  rw [w.isAlpha_of_mem_scheme hmem] at hc
  cases hc

/-- A scheme stands before the first colon, so a text starts with one scheme only. -/
theorem scheme_eq_of_prefix {name : String} (hname : ':' ∉ name.toList)
    (h : (name ++ "://").toList <+: w.text.toList) : w.scheme = name := by
  obtain ⟨rest, hrest⟩ := h
  have hbefore : ∀ {cs : List Char} (r : List Char), ':' ∉ cs →
      before (· == ':') (cs ++ ':' :: r) = cs := by
    intro cs r hcs
    refine before_append (fun c hc => ?_) (by simp)
    exact beq_false_of_ne fun he => hcs (he ▸ hc)
  have hscheme : w.scheme.toList = name.toList := by
    rw [← hbefore ('/' :: '/' :: (w.host.toList ++ w.tail.toList)) (w.not_mem_scheme (by decide)),
      ← toList_text, ← hrest, String.toList_append, List.append_assoc]
    exact hbefore _ hname
  exact String.toList_inj.1 hscheme

theorem before_host : before endsDomain (w.host.toList ++ w.tail.toList) = w.host.toList :=
  before_append w.host_within w.tail_head?

/-- A host is not taken for a scheme, for want of a colon at its end. -/
theorem not_prefix_host (name : String) (hname : ∀ c ∈ name.toList, endsDomain c = false) :
    ¬(name ++ "://").toList <+: w.host.toList ++ w.tail.toList := by
  rintro ⟨rest, hrest⟩
  have hhost : w.host.toList = name.toList ++ [':'] := by
    rw [← before_slash hname ('/' :: rest), ← w.before_host, ← hrest]
    simp
  exact w.host_getLast? (by rw [hhost, List.getLast?_concat])

/-! ## Domains -/

theorem domain_eq_of_before {s host : String}
    (h : before endsDomain (withoutScheme s.toList) = host.toList) (hne : host ≠ "") :
    domain s = some (lowercase host) := by
  have hnil : host.toList ≠ [] := mt String.toList_eq_nil_iff.1 hne
  rw [domain, h, String.ofList_toList]
  simp [hnil]

theorem withoutScheme_eq (cs : List Char) :
    withoutScheme cs = stripAll ("http" ++ "://").toList (stripAll ("https" ++ "://").toList cs) :=
  rfl

variable {w}

theorem withoutScheme_of_isPlain (h : w.IsPlain) :
    withoutScheme w.text.toList = w.host.toList ++ w.tail.toList := by
  have hhttp := w.not_prefix_host "http" (by simp [endsDomain])
  have hhttps := w.not_prefix_host "https" (by simp [endsDomain])
  have htext : w.text.toList = (w.scheme ++ "://").toList ++ (w.host.toList ++ w.tail.toList) := by
    simp [text]
  rcases h with h | h
  · have hother : ¬("https" ++ "://").toList <+: w.text.toList := by
      intro hprefix
      have hscheme := w.scheme_eq_of_prefix (by simp) hprefix
      rw [h] at hscheme
      exact absurd hscheme (by decide)
    rw [withoutScheme_eq, stripAll_of_not_prefix hother, htext, h, stripAll_append (by simp),
      stripAll_of_not_prefix hhttp]
  · rw [withoutScheme_eq, htext, h, stripAll_append (by simp), stripAll_of_not_prefix hhttps,
      stripAll_of_not_prefix hhttp]

/-- **A scheme in lower case** leaves the host. -/
theorem domain_of_isPlain (h : w.IsPlain) : domain w.text = some (lowercase w.host) := by
  refine domain_eq_of_before ?_ w.host_ne_empty
  rw [withoutScheme_of_isPlain h, w.before_host]

theorem withoutScheme_of_not_isPlain (h : ¬w.IsPlain) :
    withoutScheme w.text.toList = w.text.toList := by
  have hhttp : ¬("http" ++ "://").toList <+: w.text.toList :=
    fun hprefix => h (.inl (w.scheme_eq_of_prefix (by simp) hprefix))
  have hhttps : ¬("https" ++ "://").toList <+: w.text.toList :=
    fun hprefix => h (.inr (w.scheme_eq_of_prefix (by simp) hprefix))
  rw [withoutScheme_eq, stripAll_of_not_prefix hhttps, stripAll_of_not_prefix hhttp]

theorem lowercase_scheme (w : Web) :
    lowercase (w.scheme ++ ":") = lowercaseAscii w.scheme ++ ":" := by
  have hascii : ∀ c ∈ (w.scheme ++ ":").toList, c.toNat < 128 := by
    rw [String.toList_append]
    exact List.forall_mem_append.2
      ⟨fun c hc => lt_of_isAlpha (w.isAlpha_of_mem_scheme hc), by simp⟩
  rw [lowercase_of_ascii hascii]
  simp [lowercaseAscii]

/-- **A scheme with a capital** is taken for a domain itself, together with its colon. -/
theorem domain_of_not_isPlain (h : ¬w.IsPlain) :
    domain w.text = some (lowercaseAscii w.scheme ++ ":") := by
  have hscheme : ∀ c ∈ w.scheme.toList, endsDomain c = false := by
    intro c hc
    refine Bool.eq_false_iff.2 fun hends => w.not_mem_scheme ?_ hc
    rw [endsDomain, Bool.or_eq_true, Bool.or_eq_true, beq_iff_eq, beq_iff_eq, beq_iff_eq] at hends
    rcases hends with (rfl | rfl) | rfl <;> rfl
  rw [← lowercase_scheme]
  refine domain_eq_of_before ?_ (by simp)
  have hcolon : (w.scheme ++ ":").toList = w.scheme.toList ++ [':'] := by simp
  rw [withoutScheme_of_not_isPlain h, toList_text, hcolon]
  exact before_slash hscheme _

/-! ## Referrers with one domain -/

variable {v : Web}

/-- No host is taken for a scheme with its colon. -/
theorem lowercase_host_ne (w : Web) (s : String) : lowercase w.host ≠ s ++ ":" := by
  intro h
  refine w.host_getLast? (getLast?_of_lowercase ?_)
  rw [h, String.toList_append]
  exact List.getLast?_concat

theorem domain_eq_host_iff_isPlain : domain w.text = some (lowercase w.host) ↔ w.IsPlain := by
  refine ⟨fun h => by_contra fun hplain => ?_, domain_of_isPlain⟩
  rw [domain_of_not_isPlain hplain] at h
  exact w.lowercase_host_ne _ (Option.some.inj h).symm

theorem SameHost.lowercase_eq (h : w.SameHost v) : lowercase w.host = lowercase v.host := by
  rw [← lowercase_lowercaseAscii, h, lowercase_lowercaseAscii]

/-- **Referrers with one host** share a domain if both schemes are in lower case, or if neither is
and they are the same but for case. -/
theorem domain_eq_iff (h : w.SameHost v) : domain w.text = domain v.text ↔
    (w.IsPlain ∧ v.IsPlain) ∨
      (¬w.IsPlain ∧ ¬v.IsPlain ∧ lowercaseAscii w.scheme = lowercaseAscii v.scheme) := by
  by_cases hw : w.IsPlain <;> by_cases hv : v.IsPlain
  · simp [hw, hv, domain_of_isPlain hw, domain_of_isPlain hv, h.lowercase_eq]
  · simp [hw, hv, domain_of_isPlain hw, domain_of_not_isPlain hv, w.lowercase_host_ne]
  · simp [hw, hv, domain_of_not_isPlain hw, domain_of_isPlain hv, (v.lowercase_host_ne _).symm]
  · simp [hw, hv, domain_of_not_isPlain hw, domain_of_not_isPlain hv]

end Web

/-- A referrer is written as before, or as another from the same host, both with a scheme in lower
case. -/
def Respelled (r r' : Option String) : Prop :=
  r' = r ∨ ∃ w v : Web, r = some w.text ∧ r' = some v.text ∧ w.SameHost v ∧ w.IsPlain ∧ v.IsPlain

theorem Respelled.domain_eq {r r' : Option String} (h : Respelled r r') :
    r'.bind domain = r.bind domain := by
  obtain rfl | ⟨w, v, rfl, rfl, hhost, hw, hv⟩ := h
  · rfl
  · exact ((Web.domain_eq_iff hhost).2 (.inl ⟨hw, hv⟩)).symm

/-! ## The rows of a report -/

section Rows

variable {α : Type} [Scalar α] (projectId : String) (start stop : Timestamp) (events : List Event)
  (interval : Nat)

/-- A row counts the referrers whose domain is its label. -/
theorem count_of_mem_referrers {r : Row}
    (hr : r ∈ (Report.build projectId start stop events interval : Report α).referrers) :
    r.count = events.countP fun e => e.referrer.bind domain == some r.label := by
  have hsorted := (mem_sortedRows.1 (List.mem_of_mem_take hr)).2
  rwa [List.count_filterMap] at hsorted

/-- The rows stay as they are when referrers are respelled. -/
theorem referrers_of_respelled {f : Event → Event}
    (hf : ∀ e ∈ events, Respelled e.referrer (f e).referrer) :
    (Report.build projectId start stop (events.map f) interval : Report α).referrers =
      (Report.build projectId start stop events interval : Report α).referrers := by
  have hlabels : (events.map f).filterMap (fun e => e.referrer.bind domain) =
      events.filterMap fun e => e.referrer.bind domain := by
    rw [List.filterMap_map]
    exact List.filterMap_congr fun e he => (hf e he).domain_eq
  exact congrArg (topRows Report.rowLimit) hlabels

end Rows

/-- **When the domain of a web referrer is its host.** The domain is the host in lower case exactly
if the scheme is written in lower case; a scheme with a capital is taken for the domain itself, with
its colon. So two referrers from one host, whatever follows it, share a domain if both schemes are
in lower case, and if neither is and they are the same but for case, and in no other case.

The rows of a report go by domain: a row counts the referrers whose domain is its label, and rows do
not change when referrers are written with another scheme, tail or case of the host, as long as
schemes are in lower case. -/
theorem domain_eq_host_iff (w : Web) :
    (domain w.text = some (lowercase w.host) ↔ w.IsPlain) ∧
    (¬w.IsPlain → domain w.text = some (lowercaseAscii w.scheme ++ ":")) ∧
    (∀ v : Web, w.SameHost v → (domain w.text = domain v.text ↔
      (w.IsPlain ∧ v.IsPlain) ∨
        (¬w.IsPlain ∧ ¬v.IsPlain ∧ lowercaseAscii w.scheme = lowercaseAscii v.scheme))) ∧
    ∀ {α : Type} [Scalar α] (projectId : String) (start stop : Timestamp) (events : List Event)
      (interval : Nat),
      (∀ r ∈ (Report.build projectId start stop events interval : Report α).referrers,
        r.count = events.countP fun e => e.referrer.bind domain == some r.label) ∧
      ∀ f : Event → Event, (∀ e ∈ events, Respelled e.referrer (f e).referrer) →
        (Report.build projectId start stop (events.map f) interval : Report α).referrers =
          (Report.build projectId start stop events interval : Report α).referrers :=
  ⟨Web.domain_eq_host_iff_isPlain, Web.domain_of_not_isPlain, fun _ => Web.domain_eq_iff,
    fun _ _ _ _ _ => ⟨fun _ hr => count_of_mem_referrers _ _ _ _ _ hr,
      fun _ hf => referrers_of_respelled _ _ _ _ _ hf⟩⟩

/-- Two referrers from a port of one host, in other letters, have one domain and are counted
together. A third one, with a capital in its scheme, has another domain. -/
theorem domain_eq_host_iff_two_spellings :
    let sentFrom (referrer : String) : Event :=
      { Event.bare "shop" .pageview "/" "visit" "visitor" default with referrer := some referrer }
    ∃ w v u : Web, w.text = "https://Example.com:80/a" ∧ v.text = "http://example.COM:80?q" ∧
      u.text = "Http://example.com:80" ∧
      domain w.text = some "example.com:80" ∧ domain w.text = domain v.text ∧
      domain u.text = some "http:" ∧ domain w.text ≠ domain u.text ∧
      ∀ {α : Type} [Scalar α],
        (Report.build "shop" default default [sentFrom v.text] 15 : Report α).referrers =
          (Report.build "shop" default default [sentFrom w.text] 15 : Report α).referrers := by
  intro sentFrom
  let w : Web := ⟨"https", "Example.com:80", "/a", .inr (by decide +kernel), by decide,
    by simp [endsDomain], by simp, by simp [endsDomain]⟩
  let v : Web := ⟨"http", "example.COM:80", "?q", .inl (by decide +kernel), by decide,
    by simp [endsDomain], by simp, by simp [endsDomain]⟩
  let u : Web := ⟨"Http", "example.com:80", "", .inl (by decide +kernel), by decide,
    by simp [endsDomain], by simp, by simp⟩
  have hw : w.IsPlain := .inr rfl
  have hv : v.IsPlain := .inl rfl
  have hu : ¬u.IsPlain := by simp [u, Web.IsPlain]
  have hwv : w.SameHost v := show lowercaseAscii _ = lowercaseAscii _ by decide +kernel
  have hwu : w.SameHost u := show lowercaseAscii _ = lowercaseAscii _ by decide +kernel
  have hlower : lowercase w.host = "example.com:80" := by decide +kernel
  have hscheme : lowercaseAscii u.scheme ++ ":" = "http:" := by decide +kernel
  obtain ⟨hdomain, -, hsame, hrows⟩ := domain_eq_host_iff w
  obtain ⟨-, hcapital, -⟩ := domain_eq_host_iff u
  have hother : ¬((w.IsPlain ∧ u.IsPlain) ∨
      (¬w.IsPlain ∧ ¬u.IsPlain ∧ lowercaseAscii w.scheme = lowercaseAscii u.scheme)) := by
    simp [hu, hw]
  refine ⟨w, v, u, by decide, by decide, by decide, hlower ▸ hdomain.2 hw,
    (hsame v hwv).2 (.inl ⟨hw, hv⟩), hscheme ▸ hcapital hu, mt (hsame u hwu).1 hother, ?_⟩
  intro α _
  refine (hrows "shop" default default [sentFrom w.text] 15).2
    (fun e => { e with referrer := some v.text }) fun e he => ?_
  obtain rfl := List.mem_singleton.1 he
  exact .inr ⟨w, v, rfl, rfl, hwv, hw, hv⟩

/-- A scheme in capitals is taken for the domain of a referrer that has the domain of its host when
the scheme is in lower case. -/
theorem domain_capital_scheme :
    ∃ w v : Web, w.text = "HTTPS://Example.com/x" ∧ v.text = "https://Example.com/x" ∧
      w.SameHost v ∧ lowercase w.host = "example.com" ∧
      domain w.text = some "https:" ∧ domain v.text = some "example.com" := by
  let spelled (scheme : String) (h : lowercaseAscii scheme = "https") : Web :=
    ⟨scheme, "Example.com", "/x", .inr h, by decide, by simp [endsDomain], by simp,
      by simp [endsDomain]⟩
  exact ⟨spelled "HTTPS" (by decide +kernel), spelled "https" (by decide +kernel), by decide,
    by decide, rfl, by decide +kernel, by decide +kernel, by decide +kernel⟩

end Referrer

end Footfall
