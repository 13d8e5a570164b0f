import Mathlib.Tactic.SplitIfs
import Footfall.Text.Split

/-!
# Pieces of a text

Splitting at a class of characters is the library's `List.splitOnP` (`splitBy_eq_splitOnP`), so that
a text which is put together with a separator splits into the pieces of its parts (`split_append`).
Splitting once finds the first separator: what stands before it has none (`splitOnce_eq_some_iff`).
-/

namespace Footfall.Text

variable {sep : Char}

/-! ## All pieces -/

theorem splitBy_eq_splitOnP (p : Char → Bool) (cs : List Char) : splitBy p cs = cs.splitOnP p := by
  induction cs with
  | nil => rw [splitBy, List.splitOnP_nil]
  | cons c r ih =>
    obtain ⟨w, ws, hr⟩ := List.exists_cons_of_ne_nil (List.splitOnP_ne_nil p r)
    rw [splitBy, ih, List.splitOnP_cons_eq_if_modifyHead, hr]
    rfl

theorem split_eq_splitOn (sep : Char) (s : String) :
    split sep s = (s.toList.splitOn sep).map String.ofList := by
  rw [split, splitBy_eq_splitOnP, List.splitOn_eq_splitOnP]

/-- The pieces of two texts with a separator between them. -/
theorem split_append (sep : Char) (a b : String) :
    split sep (a ++ String.singleton sep ++ b) = split sep a ++ split sep b := by
  have htoList : (a ++ String.singleton sep ++ b).toList = a.toList ++ sep :: b.toList := by simp
  rw [split_eq_splitOn, htoList, List.splitOn_append_cons_self, List.map_append,
    ← split_eq_splitOn, ← split_eq_splitOn]

/-- A text without separators is one piece. -/
theorem split_of_notMem {s : String} (h : sep ∉ s.toList) : split sep s = [s] := by
  rw [split_eq_splitOn, List.splitOn_eq_singleton h, List.map_singleton, String.ofList_toList]

/-! ## The first separator -/

theorem splitOnce_eq_none_iff {cs : List Char} : splitOnce sep cs = none ↔ sep ∉ cs := by
  induction cs with
  | nil => simp [splitOnce]
  | cons c r ih =>
    rw [splitOnce, List.mem_cons, not_or]
    split_ifs with h
    · simp [h]
    · rw [Option.map_eq_none_iff, ih, and_iff_right (Ne.symm h)]

theorem splitOnce_append {a : List Char} (h : sep ∉ a) (b : List Char) :
    splitOnce sep (a ++ sep :: b) = some (a, b) := by
  induction a with
  | nil => rw [List.nil_append, splitOnce, if_pos rfl]
  | cons c a ih =>
    obtain ⟨hne, hrest⟩ := not_or.1 (mt List.mem_cons.2 h)
    rw [List.cons_append, splitOnce, if_neg (Ne.symm hne), ih hrest]
    rfl

theorem splitOnce_eq_some_iff {cs a b : List Char} :
    splitOnce sep cs = some (a, b) ↔ cs = a ++ sep :: b ∧ sep ∉ a := by
  constructor
  · intro h
    by_cases hmem : sep ∈ cs
    · obtain ⟨before, after, rfl, hbefore⟩ := List.eq_append_cons_of_mem hmem
      rw [splitOnce_append hbefore] at h
      cases h
      exact ⟨rfl, hbefore⟩
    · rw [splitOnce_eq_none_iff.2 hmem] at h
      cases h
  · rintro ⟨rfl, h⟩
    exact splitOnce_append h b

end Footfall.Text
