import Mathlib.Data.List.Infix
import Footfall.Text.Utf8

/-!
# The longest start of a text

A text is cut to a number of bytes without cutting a character. The search for the place of the cut
goes down from the last index that would fit, and always succeeds (`boundaryFrom?_eq`), since the
start of the text is such a place. A character has at most four bytes, so the search makes at most
three steps (`le_offset_posLE_add`). What stands before the place is the longest start
of the text that fits (`isLongestStart_sliceTo`).
-/

namespace Footfall.Text

variable {s : String}

/-- The bytes of a text are counted character by character. -/
theorem utf8ByteSize_ofList (cs : List Char) : (String.ofList cs).utf8ByteSize = utf8Length cs := by
  induction cs with
  | nil => rfl
  | cons c r ih =>
    have hcons : String.ofList (c :: r) = String.singleton c ++ String.ofList r := by
      rw [← String.toList_inj]
      simp
    rw [hcons, String.utf8ByteSize_append, ih, String.utf8ByteSize_singleton, utf8Length]

/-! ## Places between characters -/

theorem pos?_of_isValid {p : String.Pos.Raw} (h : p.IsValid s) : s.pos? p = some (s.pos p h) := by
  rw [String.pos?, String.Slice.pos?,
    dif_pos (String.Pos.Raw.isValidForSlice_eq_true_iff.2 h.toSlice)]
  rfl

theorem pos?_of_not_isValid {p : String.Pos.Raw} (h : ¬p.IsValid s) : s.pos? p = none := by
  rw [String.pos?, String.Slice.pos?, dif_neg (by simpa using h)]
  rfl

/-- **The search succeeds**, with the last place that is not beyond the index it starts from. -/
theorem boundaryFrom?_eq (s : String) (i : ℕ) : boundaryFrom? s i = some (s.posLE ⟨i⟩) := by
  induction i with
  | zero =>
    have hstart : (⟨0⟩ : String.Pos.Raw).IsValid s := String.Pos.Raw.isValid_zero
    rw [boundaryFrom?, pos?_of_isValid hstart, String.posLE_eq_pos hstart]
  | succ i ih =>
    by_cases h : (⟨i + 1⟩ : String.Pos.Raw).IsValid s
    · rw [boundaryFrom?, pos?_of_isValid h, String.posLE_eq_pos h]
      rfl
    · -- `i + 1` lies inside a character, so the last place up to it is the last one up to `i`
      have hbelow : s.posLE ⟨i + 1⟩ = s.posLE ⟨i⟩ := by
        refine String.posLE_eq_iff.2 ⟨?_, fun q hq => String.le_posLE_iff.2 ?_⟩
        · exact Nat.le_succ_of_le (String.Pos.Raw.le_iff.1 String.offset_posLE_le)
        · have hle : q.offset.byteIdx ≤ i + 1 := String.Pos.Raw.le_iff.1 hq
          have hne : q.offset.byteIdx ≠ i + 1 := fun he => h (he ▸ q.isValid)
          exact String.Pos.Raw.le_iff.2 (Nat.le_of_lt_succ (Nat.lt_of_le_of_ne hle hne))
      rw [boundaryFrom?, pos?_of_not_isValid h, ih, hbelow]
      rfl

/-- No character is longer than four bytes, so there is a place among the last four indices. -/
theorem le_offset_posLE_add {i : ℕ} (hi : i ≤ s.utf8ByteSize) :
    i ≤ (s.posLE ⟨i⟩).offset.byteIdx + 3 := by
  by_cases hend : s.posLE ⟨i⟩ = s.endPos
  · rw [hend, String.offset_endPos, String.byteIdx_rawEndPos]
    omega
  · -- the next place is beyond `i`, and the character between the two has at most four bytes
    have hsize := Char.utf8Size_le_four ((s.posLE ⟨i⟩).get hend)
    have hnext : i < ((s.posLE ⟨i⟩).next hend).offset.byteIdx :=
      String.Pos.Raw.lt_iff.1 (String.posLE_lt_iff.1 String.Pos.lt_next)
    rw [String.Pos.byteIdx_offset_next] at hnext
    omega

/-! ## Longest starts -/

/-- A text is the longest start of another one that has at most so many bytes. -/
structure IsLongestStart (limit : ℕ) (whole start : String) : Prop where
  isStart : start.toList <+: whole.toList
  fits : start.utf8ByteSize ≤ limit
  longest : ∀ other : String, other.toList <+: whole.toList → other.utf8ByteSize ≤ limit →
    other.toList <+: start.toList

theorem isLongestStart_sliceTo (limit : ℕ) (whole : String) :
    IsLongestStart limit whole (whole.sliceTo (whole.posLE ⟨limit⟩)).copy where
  isStart := by
    refine ⟨(whole.sliceFrom (whole.posLE ⟨limit⟩)).copy.toList, ?_⟩
    rw [← String.toList_append, String.sliceTo_append_sliceFrom]
  fits := by
    have hle : (whole.posLE ⟨limit⟩).offset ≤ ⟨limit⟩ := String.offset_posLE_le
    simpa using String.Pos.Raw.le_iff.1 hle
  longest other hstart hfits := by
    obtain ⟨rest, hrest⟩ := hstart
    have hwhole : whole = other ++ String.ofList rest := by
      rw [← String.toList_inj, String.toList_append, String.toList_ofList, hrest]
    have hother := String.Pos.splits_ofEqAppend hwhole
    have hle : String.Pos.ofEqAppend hwhole ≤ whole.posLE ⟨limit⟩ := by
      rw [String.le_posLE_iff, hother.offset_eq_rawEndPos]
      exact String.Pos.Raw.le_iff.2 hfits
    obtain ⟨more, hmore, -⟩ := (hother.le_iff_exists_eq_append (String.Pos.splits _)).1 hle
    rw [hmore, String.toList_append]
    exact List.prefix_append _ _

/-- A text that fits is its own longest start. -/
theorem isLongestStart_self {limit : ℕ} {whole : String} (h : whole.utf8ByteSize ≤ limit) :
    IsLongestStart limit whole whole :=
  ⟨List.prefix_rfl, h, fun _ hother _ => hother⟩

end Footfall.Text
