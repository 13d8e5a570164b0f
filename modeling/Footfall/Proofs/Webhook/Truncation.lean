import Footfall.Proofs.Text.Utf8
import Footfall.Webhook.Delivery

/-!
# What an audit row keeps of a body

A body of at most 1024 bytes is kept whole, a longer one up to the last place between two characters
that is not beyond byte 1024 (`truncateBody_of_lt`). In either case that is its longest start that
fits (`isLongestStart_truncateBody`). `truncateBody_cuts` adds how the place is found.
-/

namespace Footfall

variable {body : String}

theorem truncateBody_of_le (h : body.utf8ByteSize ≤ maxAuditBody) : truncateBody body = body :=
  if_pos h

theorem truncateBody_of_lt (h : maxAuditBody < body.utf8ByteSize) :
    truncateBody body = (body.sliceTo (body.posLE ⟨maxAuditBody⟩)).copy := by
  rw [truncateBody, if_neg (Nat.not_le.2 h), Text.boundaryFrom?_eq]

theorem isLongestStart_truncateBody (body : String) :
    Text.IsLongestStart maxAuditBody body (truncateBody body) := by
  rcases Nat.lt_or_ge maxAuditBody body.utf8ByteSize with h | h
  · rw [truncateBody_of_lt h]
    exact Text.isLongestStart_sliceTo maxAuditBody body
  · rw [truncateBody_of_le h]
    exact Text.isLongestStart_self h

theorem truncateBody_eq_self_iff : truncateBody body = body ↔ body.utf8ByteSize ≤ maxAuditBody :=
  ⟨fun h => h ▸ (isLongestStart_truncateBody body).fits, truncateBody_of_le⟩

/-- **Bodies are cut between characters.** For every text:

* what is kept of it is its longest start of whole characters that has at most 1024 bytes;
* all of it is kept exactly if it has no more bytes than that;
* otherwise the search that starts at byte 1024 and goes down finds a place between two characters,
  at most three bytes lower, so that it never gets to index 0, let alone below it; the text is kept
  up to that place;
* cutting a second time changes nothing. -/
theorem truncateBody_cuts (body : String) :
    Text.IsLongestStart 1024 body (truncateBody body) ∧
      (truncateBody body = body ↔ body.utf8ByteSize ≤ 1024) ∧
      (1024 < body.utf8ByteSize → ∃ stop, Text.boundaryFrom? body 1024 = some stop ∧
        1021 ≤ stop.offset.byteIdx ∧ stop.offset.byteIdx ≤ 1024 ∧
        truncateBody body = (body.sliceTo stop).copy) ∧
      truncateBody (truncateBody body) = truncateBody body := by
  refine ⟨isLongestStart_truncateBody body, truncateBody_eq_self_iff, fun hlong => ?_,
    truncateBody_of_le (isLongestStart_truncateBody body).fits⟩
  have hlow := Text.le_offset_posLE_add hlong.le
  refine ⟨_, Text.boundaryFrom?_eq body 1024, by omega, ?_, truncateBody_of_lt hlong⟩
  exact String.Pos.Raw.le_iff.1 String.offset_posLE_le

/-- A text of 1025 bytes in which byte 1024 is the last of a character of four. -/
theorem truncateBody_cuts_last_letter :
    let body := String.ofList ('x' :: List.replicate 256 '😀')
    1024 < body.utf8ByteSize ∧ ∃ stop, Text.boundaryFrom? body 1024 = some stop ∧
      1021 ≤ stop.offset.byteIdx ∧ stop.offset.byteIdx ≤ 1024 ∧
      truncateBody body = (body.sliceTo stop).copy := by
  intro body
  have hlong : 1024 < body.utf8ByteSize := by
    rw [Text.utf8ByteSize_ofList]
    decide +kernel
  exact ⟨hlong, (truncateBody_cuts body).2.2.1 hlong⟩

end Footfall
