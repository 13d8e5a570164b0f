import Mathlib.Tactic.SplitIfs
import Footfall.Http.Cors
import Footfall.Proofs.Text.Blank

/-!
# Which origins are allowed

A list of origins names what is left of its entries after trimming (`OriginPolicy.Names`). Names
that hold control characters cannot be sent in a header and are dropped (`mem_entries_iff`); a list
of which nothing is left after that is taken for an empty one, and allows every origin. Other lists
allow the origins that they name, except that there is no policy if the wildcard is one of them.

A browser goes by the headers of a response, which say what the policy allows
(`grants_headers_iff`). `fails_open_iff` puts these together.
-/

namespace Footfall.Http

/-- A text holds a control character of ASCII that is not a tab. -/
def HasControl (s : String) : Prop := ∃ c ∈ s.toList, (c.toNat < 32 ∨ c.toNat = 127) ∧ c ≠ '\t'

/-- The texts that can be sent in a header are those without control characters. -/
theorem isHeaderValue_iff {s : String} : isHeaderValue s = true ↔ ¬HasControl s := by
  rw [isHeaderValue, List.all_eq_true, HasControl, not_exists]
  refine forall_congr' fun c => ?_
  rw [not_and]
  refine imp_congr_right fun _ => ?_
  by_cases hc : c = '\t'
  · simp [hc]
  · simp only [beq_iff_eq, Bool.or_eq_true, Bool.and_eq_true, decide_eq_true_eq, bne_iff_ne, hc,
      false_or, ne_eq, not_false_eq_true, and_true]
    omega

namespace OriginPolicy

variable {origins : List String} {p : OriginPolicy} {o : String}

/-! ## The policy of a list -/

/-- A list names an origin if that is left of one of its entries after trimming. -/
def Names (origins : List String) (o : String) : Prop := ∃ e ∈ origins, Text.trim e = o ∧ o ≠ ""

/-- The entries that count are the names that can be sent. -/
theorem mem_entries_iff : o ∈ entries origins ↔ Names origins o ∧ ¬HasControl o := by
  have hname : ∀ e, Text.nonBlank e = some o ↔ Text.trim e = o ∧ o ≠ "" := by
    intro e
    have hpresent := Text.present_eq_some_iff (s := some e) (t := o)
    rwa [Option.map_some, Option.some_inj] at hpresent
  simp only [entries, List.mem_filter, List.mem_filterMap, hname, Names, isHeaderValue_iff]

theorem entries_eq_nil_iff :
    entries origins = [] ↔ ∀ o, Names origins o → HasControl o := by
  simp only [List.eq_nil_iff_forall_not_mem, mem_entries_iff, not_and, not_not]

theorem ofList?_of_entries_ne_nil (h : entries origins ≠ []) : ofList? origins =
    if (entries origins).contains wildcard then none else some (.only (entries origins)) := by
  rw [ofList?]
  split
  · next hnil => exact absurd hnil h
  · rfl

/-- Every origin is allowed if no name can be sent. -/
theorem ofList?_eq_any_iff :
    ofList? origins = some .any ↔ ∀ o, Names origins o → HasControl o := by
  rw [← entries_eq_nil_iff]
  by_cases h : entries origins = []
  · simp [ofList?, h]
  · rw [ofList?_of_entries_ne_nil h]
    split_ifs <;> simp [h]

/-- There is no policy if the wildcard is a name. -/
theorem ofList?_eq_none_iff : ofList? origins = none ↔ Names origins wildcard := by
  have hwildcard : Names origins wildcard ↔ wildcard ∈ entries origins := by
    rw [mem_entries_iff, and_iff_left (isHeaderValue_iff.1 (by decide))]
  rw [hwildcard]
  by_cases h : entries origins = []
  · simp [ofList?, h]
  · rw [ofList?_of_entries_ne_nil h]
    split_ifs with hmem <;> simpa using hmem

/-- A policy that does not allow every origin allows those that are named. -/
theorem allows_iff (h : ofList? origins = some p) (hany : p ≠ .any) (ho : ¬HasControl o) :
    p.allows o = true ↔ Names origins o := by
  have hne : entries origins ≠ [] := by
    intro hnil
    rw [ofList?, hnil] at h
    exact hany (Option.some.inj h).symm
  rw [ofList?_of_entries_ne_nil hne] at h
  split_ifs at h
  cases h
  rw [allows, List.contains_iff_mem, mem_entries_iff, and_iff_left ho]

/-! ## What a browser is told -/

/-- A browser lets a page read a response that allows its origin or every one. -/
def Grants (headers : List (String × String)) (o : String) : Prop :=
  (allowOrigin, o) ∈ headers ∨ (allowOrigin, wildcard) ∈ headers

/-- The headers of a response say what the policy allows. -/
theorem grants_headers_iff : Grants (p.headers (some o)) o ↔ p.allows o = true := by
  cases p with
  | any => simp [Grants, headers, allows]
  | only allowed =>
    by_cases h : o ∈ allowed <;> simp [Grants, headers, allows, Option.filter_some, h]

/-! ## When a list fails open -/

/-- **Which lists fail open.** Every origin is allowed exactly if no origin that a list names can be
sent in a header: also by a list that names origins, all of them with control characters. There is
no policy exactly if the wildcard is named. Any other list allows, of the origins that a request can
carry, those that it names, and it says so in the headers of the response. So a list of origins
without control characters, the wildcard not among them, allows every origin only if it names none.
-/
theorem fails_open_iff (origins : List String) :
    (ofList? origins = some .any ↔ ∀ o, Names origins o → HasControl o) ∧
    (ofList? origins = none ↔ Names origins wildcard) ∧
    (∀ p, ofList? origins = some p → p ≠ .any → ∀ o, ¬HasControl o →
      (Grants (p.headers (some o)) o ↔ Names origins o)) ∧
    ((∀ o, Names origins o → ¬HasControl o ∧ o ≠ wildcard) →
      ∃ p, ofList? origins = some p ∧ (p = .any ↔ ∀ o, ¬Names origins o) ∧
        ∀ o, ¬HasControl o → (Grants (p.headers (some o)) o ↔ p = .any ∨ Names origins o)) := by
  have hallows : ∀ p, ofList? origins = some p → p ≠ .any → ∀ o, ¬HasControl o →
      (Grants (p.headers (some o)) o ↔ Names origins o) :=
    fun p h hany o ho => grants_headers_iff.trans (allows_iff h hany ho)
  refine ⟨ofList?_eq_any_iff, ofList?_eq_none_iff, hallows, fun hnames => ?_⟩
  cases hp : ofList? origins with
  | none =>
    -- the wildcard would be named
    exact absurd rfl (hnames wildcard (ofList?_eq_none_iff.1 hp)).2
  | some p =>
    refine ⟨p, rfl, ?_, fun o ho => ?_⟩
    · rw [← Option.some_inj, ← hp, ofList?_eq_any_iff]
      exact forall_congr' fun o =>
        ⟨fun h hname => (hnames o hname).1 (h hname), fun h hname => absurd hname h⟩
    · by_cases hany : p = .any
      · simp [hany, grants_headers_iff, allows]
      · rw [hallows p hp hany o ho, or_iff_right hany]

/-- A list with the origins on lines of their own names one text, and allows an origin that is on
none of its lines; the wildcard is no policy. -/
theorem fails_open_lines :
    let origins := ["https://a.com\nhttps://b.com"]
    Names origins "https://a.com\nhttps://b.com" ∧ ofList? origins = some .any ∧
      Grants (OriginPolicy.any.headers (some "https://evil.example")) "https://evil.example" ∧
      ¬Names origins "https://evil.example" ∧ ofList? ["*"] = none := by
  intro origins
  have htrim : Text.trim "https://a.com\nhttps://b.com" = "https://a.com\nhttps://b.com" := by
    decide +kernel
  refine ⟨⟨_, List.mem_singleton_self _, htrim, by decide⟩, by decide +kernel,
    grants_headers_iff.2 rfl, ?_, by decide +kernel⟩
  rintro ⟨e, he, hname, -⟩
  obtain rfl := List.mem_singleton.1 he
  exact absurd (htrim.symm.trans hname) (by decide)

end OriginPolicy

end Footfall.Http
