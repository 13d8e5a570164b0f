import Mathlib.Data.List.TakeWhile
import Footfall.Text.Blank

/-!
# Trimming

Trimming takes the blanks at both ends of a text away and nothing else (`IsTrimOf`), and there is
only one way to do that (`isTrimOf_iff`). It leaves nothing of a text exactly when the text is blank
(`nonBlank_eq_none_iff`), so an optional text counts as present exactly when there is something in
it (`present_eq_none_iff`); it is then the trimmed text (`present_eq_some_iff`). `isKept_present`
says so without the functions that do it.
-/

namespace Footfall.Text

theorem trimmed_eq_nil_iff {cs : List Char} : trimmed cs = [] ↔ cs.all isBlank = true := by
  rw [trimmed, List.reverse_eq_nil_iff, List.dropWhile_eq_nil_iff, List.all_eq_true]
  constructor
  · intro h c hc
    -- a character is blank either as one of the leading ones or as one of the rest
    rw [← List.takeWhile_append_dropWhile (p := isBlank) (l := cs), List.mem_append] at hc
    rcases hc with hc | hc
    · exact List.mem_takeWhile_imp hc
    · exact h c (List.mem_reverse.2 hc)
  · intro h c hc
    exact h c ((List.dropWhile_suffix isBlank).subset (List.mem_reverse.1 hc))

/-! ## What trimming is -/

/-- The text `t` is `s` without the blanks around it: all that surrounds it is blank, and it neither
starts nor ends with a blank. -/
structure IsTrimOf (s t : String) : Prop where
  around : ∃ before after, s.toList = before ++ t.toList ++ after ∧
    (∀ c ∈ before, isBlank c = true) ∧ ∀ c ∈ after, isBlank c = true
  head : ∀ c ∈ t.toList.head?, isBlank c = false
  last : ∀ c ∈ t.toList.getLast?, isBlank c = false

/-- What is left when the blanks before a text are dropped does not start with one. -/
theorem isBlank_of_mem_head?_dropWhile (cs : List Char) :
    ∀ c ∈ (cs.dropWhile isBlank).head?, isBlank c = false := by
  intro c hc
  have hnot := List.head?_dropWhile_not isBlank cs
  rw [Option.mem_def.1 hc] at hnot
  simpa using hnot

theorem isTrimOf_trim (s : String) : IsTrimOf s (trim s) := by
  set rest := s.toList.dropWhile isBlank with hrest
  have htrim : (trim s).toList = (rest.reverse.dropWhile isBlank).reverse := by
    rw [trim, String.toList_ofList, trimmed]
  -- the blanks at the end are those at the start of the reversed text
  have hsplit : rest = (trim s).toList ++ (rest.reverse.takeWhile isBlank).reverse := by
    rw [htrim, ← List.reverse_append, List.takeWhile_append_dropWhile, List.reverse_reverse]
  refine ⟨⟨s.toList.takeWhile isBlank, (rest.reverse.takeWhile isBlank).reverse, ?_,
    fun c hc => List.mem_takeWhile_imp hc,
    fun c hc => List.mem_takeWhile_imp (List.mem_reverse.1 hc)⟩, fun c hc => ?_, fun c hc => ?_⟩
  · rw [List.append_assoc, ← hsplit, hrest, List.takeWhile_append_dropWhile]
  · refine isBlank_of_mem_head?_dropWhile s.toList c ?_
    rw [← hrest, hsplit, List.head?_append, Option.mem_def.1 hc]
    rfl
  · rw [htrim, List.getLast?_reverse] at hc
    exact isBlank_of_mem_head?_dropWhile _ c hc

/-- A text that does not start with a blank stays when the blanks before it are dropped. -/
theorem dropWhile_append {before cs : List Char} (hbefore : ∀ c ∈ before, isBlank c = true)
    (hcs : ∀ c ∈ cs.head?, isBlank c = false) : (before ++ cs).dropWhile isBlank = cs := by
  rw [List.dropWhile_append_of_pos hbefore]
  cases cs with
  | nil => rfl
  | cons c r => exact List.dropWhile_cons_of_neg (by simp [hcs c rfl])

/-- **There is only one way to trim a text.** -/
theorem isTrimOf_iff {s t : String} : IsTrimOf s t ↔ t = trim s := by
  constructor
  · rintro ⟨⟨before, after, hs, hbefore, hafter⟩, hhead, hlast⟩
    rw [trim, hs, trimmed]
    cases ht : t.toList with
    | nil =>
      -- nothing but blanks: all of them go with the first ones
      have hall : (before ++ [] ++ after).dropWhile isBlank = [] := by
        rw [List.dropWhile_eq_nil_iff]
        intro c hc
        rw [List.append_nil, List.mem_append] at hc
        exact hc.elim (hbefore c) (hafter c)
      rw [hall, ← String.ofList_toList (s := t), ht]
      rfl
    | cons c r =>
      have hfront : (before ++ (c :: r) ++ after).dropWhile isBlank = c :: r ++ after := by
        rw [List.append_assoc]
        exact dropWhile_append hbefore (by simpa [ht] using hhead)
      have hback : (c :: r ++ after).reverse.dropWhile isBlank = (c :: r).reverse := by
        rw [List.reverse_append]
        refine dropWhile_append (fun d hd => hafter d (List.mem_reverse.1 hd)) fun d hd => ?_
        rw [List.head?_reverse, ← ht] at hd
        exact hlast d hd
      rw [hfront, hback, List.reverse_reverse, ← ht, String.ofList_toList]
  · rintro rfl
    exact isTrimOf_trim s

/-! ## Optional texts -/

theorem nonBlank_eq_none_iff {s : String} : nonBlank s = none ↔ isBlankText s = true := by
  have htrim : (trim s).isEmpty = true ↔ trimmed s.toList = [] := by
    rw [trim, String.isEmpty_iff, String.ofList_eq_empty_iff]
  rw [nonBlank, isBlankText, ← trimmed_eq_nil_iff, ← htrim]
  split_ifs with h <;> simp [h]

/-- A text is dropped exactly when it is absent or blank. -/
theorem present_eq_none_iff {s : Option String} : present s = none ↔ s.all isBlankText = true := by
  cases s with
  | none => simp [present]
  | some s => simp [present, nonBlank_eq_none_iff]

/-- What is present is the text without the blanks at its ends, if that is not empty. -/
theorem present_eq_some_iff {s : Option String} {t : String} :
    present s = some t ↔ s.map trim = some t ∧ t ≠ "" := by
  cases s with
  | none => simp [present]
  | some s =>
    have hempty : (trim s).isEmpty = true ↔ trim s = "" := String.isEmpty_iff
    simp only [present, Option.bind_some, nonBlank, Option.map_some, Option.some.injEq, hempty]
    split_ifs with h
    · simp only [false_iff, not_and, not_not]
      rintro rfl
      exact h
    · simp only [Option.some.injEq]
      constructor
      · rintro rfl
        exact ⟨rfl, h⟩
      · exact fun ht => ht.1

/-- How an optional text is kept: without the blanks around it, unless that leaves nothing of it. -/
structure IsKept (given kept : Option String) : Prop where
  /-- It is absent exactly if none was given, or nothing but blanks. -/
  absent : kept = none ↔ ∀ s ∈ given, ∀ c ∈ s.toList, isBlank c = true
  present : ∀ t ∈ kept, t ≠ "" ∧ ∃ s ∈ given, IsTrimOf s t

theorem isKept_present (given : Option String) : IsKept given (present given) where
  absent := by
    rw [present_eq_none_iff]
    cases given <;> simp [isBlankText]
  present t ht := by
    obtain ⟨hmap, hne⟩ := present_eq_some_iff.1 ht
    obtain ⟨s, hs, rfl⟩ := Option.map_eq_some_iff.1 hmap
    exact ⟨hne, s, hs, isTrimOf_trim s⟩

end Footfall.Text
