import Mathlib.Data.List.Basic
import Footfall.Text.Lowercase

/-!
# Lower-casing and the case of the ASCII letters

The lower-case form of a text does not tell the case of the letters `A` to `Z`
(`lowercase_lowercaseAscii`), not even where it looks at the letters around a sigma. On ASCII texts
it changes nothing else (`lowercase_of_ascii`), and it ends with a colon only if the text does
(`getLast?_of_lowercase`).
-/

namespace Footfall.Text

variable {c : Char}

/-! ## Single characters -/

theorem toNat_ofNat_of_isValidChar {n : Nat} (h : n.isValidChar) : (Char.ofNat n).toNat = n := by
  rw [Char.ofNat, dif_pos h]
  rfl

theorem lt_of_isAlpha (hc : c.isAlpha = true) : c.toNat < 128 := by
  unfold Char.isAlpha Char.isUpper Char.isLower at hc
  simp only [Bool.or_eq_true, Bool.and_eq_true, decide_eq_true_eq, ge_iff_le,
    UInt32.le_iff_toNat_le] at hc
  rcases hc with ⟨-, hc⟩ | ⟨-, hc⟩
  · exact Nat.lt_of_le_of_lt hc (by decide)
  · exact Nat.lt_of_le_of_lt hc (by decide)

/-- The characters that are not their own lower-case form are the letters `A` to `Z`. -/
theorem toLower_cases (c : Char) :
    c.toLower = c ∨ ∃ n < 26, c = Char.ofNat (65 + n) ∧ c.toLower = Char.ofNat (97 + n) := by
  have hlower : ∀ n < 26, (Char.ofNat (65 + n)).toLower = Char.ofNat (97 + n) := by decide
  by_cases hupper : c.val ≥ 'A'.val ∧ c.val ≤ 'Z'.val
  · obtain ⟨n, hn⟩ : ∃ n, c.toNat = 65 + n := Nat.exists_eq_add_of_le hupper.1
    have hle : c.toNat ≤ 90 := hupper.2
    have hlt : n < 26 := by omega
    have hc : c = Char.ofNat (65 + n) := by rw [← hn, Char.ofNat_toNat]
    exact .inr ⟨n, hlt, hc, by rw [hc, hlower n hlt]⟩
  · exact .inl (dif_neg hupper)

/-- What does not tell the letters `A` to `Z` from `a` to `z` tells no character from its
lower-case form. -/
theorem apply_toLower {β : Type} {f : Char → β}
    (h : ∀ n < 26, f (Char.ofNat (97 + n)) = f (Char.ofNat (65 + n))) (c : Char) :
    f c.toLower = f c := by
  rcases toLower_cases c with hc | ⟨n, hn, hc, hlower⟩
  · rw [hc]
  · rw [hlower, h n hn, ← hc]

theorem isAlpha_toLower (c : Char) : c.toLower.isAlpha = c.isAlpha :=
  apply_toLower (by decide) c

theorem isCased_toLower (c : Char) : isCased c.toLower = isCased c :=
  apply_toLower (by decide) c

theorem isIgnorable_toLower (c : Char) : isIgnorable c.toLower = isIgnorable c :=
  apply_toLower (by decide +kernel) c

theorem lowerSimple_toLower (c : Char) : lowerSimple c.toLower = lowerSimple c :=
  apply_toLower (by decide) c

theorem toLower_eq_iff_of_le {d : Char} (hd : 128 ≤ d.toNat) : c.toLower = d ↔ c = d := by
  rcases toLower_cases c with hc | ⟨n, hn, hc, hlower⟩
  · rw [hc]
  · have hne : ∀ m < 128, Char.ofNat m ≠ d := by
      rintro m hm rfl
      rw [toNat_ofNat_of_isValidChar (.inl (by omega))] at hd
      omega
    rw [hlower, hc]
    exact iff_of_false (hne _ (by omega)) (hne _ (by omega))

theorem ofNat_ne_colon {n : Nat} (hn : 58 < n) : Char.ofNat n ≠ ':' := by
  intro h
  by_cases hvalid : n.isValidChar
  · have hnat := toNat_ofNat_of_isValidChar hvalid
    rw [h] at hnat
    exact absurd hnat (Nat.ne_of_lt hn)
  · rw [Char.ofNat, dif_neg hvalid] at h
    exact absurd h (by decide)

/-- Only a colon becomes a colon. -/
theorem eq_colon_of_lowerSimple (h : lowerSimple c = ':') : c = ':' := by
  rw [lowerSimple] at h
  split_ifs at h with hc
  · rcases toLower_cases c with hsame | ⟨n, hn, -, hlower⟩
    · rwa [hsame] at h
    · rw [hlower] at h
      exact absurd h (ofNat_ne_colon (by omega))
  · split at h
    · next r hr =>
      -- no run of letters has an image among the first characters
      have himage : ∀ r ∈ lowerRuns, 58 < r.first + r.shift := by decide +kernel
      have hcovers : r.covers c.toNat = true :=
        List.find?_some (p := fun r : CaseRun => r.covers c.toNat) hr
      have hfirst : r.first ≤ c.toNat := by
        simp only [CaseRun.covers, Bool.and_eq_true, decide_eq_true_eq] at hcovers
        exact hcovers.1.1
      have hfar := himage r (List.mem_of_find?_eq_some hr)
      exact absurd h (ofNat_ne_colon (by omega))
    · exact h

/-! ## Texts -/

theorem nextIsCased_map_toLower (cs : List Char) :
    nextIsCased (cs.map Char.toLower) = nextIsCased cs := by
  have hskip : isIgnorable ∘ Char.toLower = isIgnorable := funext isIgnorable_toLower
  rw [nextIsCased, nextIsCased, List.dropWhile_map, hskip]
  cases cs.dropWhile isIgnorable with
  | nil => rfl
  | cons c _ => exact isCased_toLower c

theorem lowercaseAfter_map_toLower (seen cs : List Char) :
    lowercaseAfter (seen.map Char.toLower) (cs.map Char.toLower) = lowercaseAfter seen cs := by
  induction cs generalizing seen with
  | nil => rfl
  | cons c r ih =>
    have hrest := ih (c :: seen)
    rw [List.map_cons] at hrest
    rw [List.map_cons, lowercaseAfter, lowercaseAfter, hrest, nextIsCased_map_toLower,
      nextIsCased_map_toLower, lowerSimple_toLower]
    simp only [toLower_eq_iff_of_le (d := 'Σ') (by decide),
      toLower_eq_iff_of_le (d := 'İ') (by decide)]

/-- **The case of the letters `A` to `Z`** is not to be seen in the lower-case form. -/
theorem lowercase_lowercaseAscii (s : String) : lowercase (lowercaseAscii s) = lowercase s := by
  rw [lowercase, lowercase, lowercaseAscii, String.toList_ofList]
  exact congrArg String.ofList (lowercaseAfter_map_toLower [] s.toList)

theorem lowercaseAfter_of_ascii {cs : List Char} (h : ∀ c ∈ cs, c.toNat < 128) (seen : List Char) :
    lowercaseAfter seen cs = cs.map Char.toLower := by
  induction cs generalizing seen with
  | nil => rfl
  | cons c r ih =>
    obtain ⟨hc, hr⟩ := List.forall_mem_cons.1 h
    have hne : ∀ d : Char, 128 ≤ d.toNat → c ≠ d := by
      rintro d hd rfl
      omega
    rw [lowercaseAfter, ih hr, if_neg (hne 'Σ' (by decide)), if_neg (hne 'İ' (by decide)),
      lowerSimple, if_pos hc]
    rfl

theorem lowercase_of_ascii {s : String} (h : ∀ c ∈ s.toList, c.toNat < 128) :
    lowercase s = lowercaseAscii s :=
  congrArg String.ofList (lowercaseAfter_of_ascii h [])

theorem lowercaseAfter_ne_nil (seen : List Char) {cs : List Char} (h : cs ≠ []) :
    lowercaseAfter seen cs ≠ [] := by
  cases cs with
  | nil => exact absurd rfl h
  | cons c r =>
    rw [lowercaseAfter]
    split_ifs <;> simp

theorem getLast?_of_lowercaseAfter {seen cs : List Char}
    (h : (lowercaseAfter seen cs).getLast? = some ':') : cs.getLast? = some ':' := by
  induction cs generalizing seen with
  | nil => exact h
  | cons c r ih =>
    rw [lowercaseAfter] at h
    cases r with
    | nil =>
      -- the image of the last character is a sigma, a dot, or one letter
      have hc : c = ':' := by
        rw [lowercaseAfter, List.append_nil] at h
        by_cases hsigma : c = 'Σ'
        · rw [if_pos hsigma] at h
          cases hfinal : nextIsCased seen && !nextIsCased [] <;> simp [hfinal] at h
        by_cases hdot : c = 'İ'
        · simp [hdot] at h
        rw [if_neg hsigma, if_neg hdot] at h
        exact eq_colon_of_lowerSimple (by simpa using h)
      rw [hc]
      rfl
    | cons d r =>
      have hrest : (lowercaseAfter (c :: seen) (d :: r)).getLast? = some ':' := by
        rwa [List.getLast?_append_of_ne_nil _ (lowercaseAfter_ne_nil _ (List.cons_ne_nil d r))] at h
      rw [List.getLast?_cons_cons]
      exact ih hrest

/-- A lower-case form that ends with a colon is one of a text that does. -/
theorem getLast?_of_lowercase {s : String} (h : (lowercase s).toList.getLast? = some ':') :
    s.toList.getLast? = some ':' := by
  rw [lowercase, String.toList_ofList] at h
  exact getLast?_of_lowercaseAfter h

end Footfall.Text
