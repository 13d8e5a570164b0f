import Mathlib.Data.Int.ConditionallyCompleteOrder
import Mathlib.Order.ConditionallyCompleteLattice.Basic
import Footfall.Proofs.Text.Digits
import Footfall.Proofs.Time
import Footfall.Visitor

/-!
# What visitor hashes tell apart

The digest of a visitor is taken of the bytes of one text: the address, the user agent, the project,
the salt and the number of the rotation period, one after the other. Texts have different bytes
(`Digest.bytesOf_inj`), so what hashes tell apart is what this text does.

* **Instants.** The number of the rotation period is a single quotient of the microseconds
  (`rotationBucket_ofMicros`), and numbers are told apart by their digits. So the same client is
  hashed alike at two instants exactly if they lie in one period (`bytes_eq_iff_samePeriod`).
* **Clients.** Nothing marks where the address ends and the user agent begins. What is hashed of a
  client is therefore the text that the three make up together (`bytes_eq_iff_append_eq`): another
  address, another user agent or another project alone always shows, but a character that moves from
  one to the next does not (`bytes_not_injective`).
-/

namespace Footfall

/-- Different texts have different bytes. -/
theorem Digest.bytesOf_inj {s t : String} : bytesOf s = bytesOf t ↔ s = t := by
  constructor
  · intro h
    rw [← String.toByteArray_inj, ← String.utf8Encode_toList, ← String.utf8Encode_toList]
    exact congrArg List.toByteArray h
  · rintro rfl
    rfl

namespace Visitor

open Digest

variable {salt : String} {hours : ℕ} {h : Hasher}

/-! ## Rotation periods -/

theorem clampRotation_mem (hours : ℕ) : clampRotation hours ∈ Set.Icc 1 8760 := by
  simp only [clampRotation, longestRotation, Set.mem_Icc]
  omega

@[simp] theorem clampRotation_clampRotation (hours : ℕ) :
    clampRotation (clampRotation hours) = clampRotation hours := by
  simp only [clampRotation, longestRotation]
  omega

/-- The length of a rotation period in microseconds. -/
def periodMicros (hours : ℕ) : ℤ := clampRotation hours * 3600 * 1000000

theorem periodMicros_pos (hours : ℕ) : 0 < periodMicros hours := by
  have hpos : 1 ≤ clampRotation hours := (clampRotation_mem hours).1
  rw [periodMicros]
  omega

/-- Two instants, in microseconds since the beginning of 1970, lie in one rotation period. -/
def SamePeriod (hours : ℕ) (us vs : ℤ) : Prop :=
  ∃ j : ℤ, us ∈ Set.Ico (j * periodMicros hours) ((j + 1) * periodMicros hours) ∧
    vs ∈ Set.Ico (j * periodMicros hours) ((j + 1) * periodMicros hours)

/-- **The number of a rotation period** counts whole periods from the beginning of 1970, downwards
before it. -/
theorem rotationBucket_ofMicros (us : ℤ) (hours : ℕ) :
    rotationBucket (.ofMicros us) hours = us / periodMicros hours := by
  have hlength : periodMicros hours = 1000000 * (3600 * clampRotation hours) := by
    rw [periodMicros]
    omega
  rw [rotationBucket, Timestamp.seconds_ofMicros, hlength,
    Int.ediv_ediv_of_nonneg (by decide), Int.ediv_ediv_of_nonneg (by decide)]

theorem rotationBucket_eq_iff_mem (us j : ℤ) (hours : ℕ) :
    rotationBucket (.ofMicros us) hours = j ↔
      us ∈ Set.Ico (j * periodMicros hours) ((j + 1) * periodMicros hours) := by
  rw [rotationBucket_ofMicros, Int.ediv_eq_iff_of_pos (periodMicros_pos hours), Set.mem_Ico,
    add_mul, one_mul]

theorem samePeriod_iff (us vs : ℤ) (hours : ℕ) : SamePeriod hours us vs ↔
    rotationBucket (.ofMicros us) hours = rotationBucket (.ofMicros vs) hours := by
  simp only [SamePeriod, ← rotationBucket_eq_iff_mem]
  constructor
  · rintro ⟨j, hus, hvs⟩
    rw [hus, hvs]
  · intro heq
    exact ⟨_, heq, rfl⟩

theorem rotationBucket_mono {t u : Timestamp} (hle : t ≤ u) (hours : ℕ) :
    rotationBucket t hours ≤ rotationBucket u hours := by
  have hpos : (0 : ℤ) < clampRotation hours := by exact_mod_cast (clampRotation_mem hours).1
  have hseconds : t.seconds ≤ u.seconds := by
    rw [Timestamp.le_iff] at hle
    omega
  exact Int.ediv_le_ediv hpos (Int.ediv_le_ediv (by decide) hseconds)

theorem rotationHours_of_new (hnew : Hasher.new salt hours = .ok h) :
    h.rotationHours = clampRotation hours := by
  rw [Hasher.new] at hnew
  split at hnew
  · rw [← Except.ok.inj hnew]
  · cases hnew

theorem bytes_eq_iff_rotationBucket_eq (h : Hasher) (address userAgent projectId : String)
    (t u : Timestamp) :
    bytesOf (h.message address userAgent projectId t) =
        bytesOf (h.message address userAgent projectId u) ↔
      rotationBucket t h.rotationHours = rotationBucket u h.rotationHours := by
  rw [bytesOf_inj, Hasher.message, Hasher.message, String.append_right_inj, Text.toString_inj]

/-- **A visitor keeps a hash for one rotation period.** The rotation is brought into the bounds of
an hour and a year. The same client in the same project is hashed from the same bytes at two
instants exactly if they lie in one period of that length, counted from 1970 in both directions, and
later instants never have a smaller number of their period. -/
theorem bytes_eq_iff_samePeriod (hnew : Hasher.new salt hours = .ok h) :
    h.rotationHours = clampRotation hours ∧ clampRotation hours ∈ Set.Icc 1 8760 ∧
      (∀ (address userAgent projectId : String) (us vs : ℤ),
        bytesOf (h.message address userAgent projectId (.ofMicros us)) =
            bytesOf (h.message address userAgent projectId (.ofMicros vs)) ↔
          SamePeriod hours us vs) ∧
      ∀ t u : Timestamp, t ≤ u →
        rotationBucket t h.rotationHours ≤ rotationBucket u h.rotationHours := by
  have hrotation := rotationHours_of_new hnew
  refine ⟨hrotation, clampRotation_mem hours, fun address userAgent projectId us vs => ?_,
    fun t u hle => rotationBucket_mono hle _⟩
  rw [bytes_eq_iff_rotationBucket_eq, samePeriod_iff, hrotation]
  simp only [rotationBucket, clampRotation_clampRotation]

/-- With a rotation of no hours, which counts as one, the last microsecond before 1970 is in the
same period as an instant an hour before 1970, and in another one than the beginning of 1970. -/
theorem bytes_eq_iff_samePeriod_before_1970 :
    let salt := "0123456789abcdef0123456789abcdef"
    let h : Hasher := ⟨salt, 1⟩
    let bytes (us : ℤ) : Bytes := bytesOf (h.message "203.0.113.7" "Bot/1.0" "shop" (.ofMicros us))
    Hasher.new salt 0 = .ok h ∧ bytes (-1) = bytes (-3600000000) ∧ bytes (-1) ≠ bytes 0 := by
  intro salt h bytes
  have hlong : ¬ salt.length < leastSaltLength := by decide
  have hnew : Hasher.new salt 0 = .ok h := by
    rw [Hasher.new, checkSalt, if_neg hlong]
    rfl
  obtain ⟨-, -, hbytes, -⟩ := bytes_eq_iff_samePeriod hnew
  refine ⟨hnew, (hbytes ..).2 ?_, fun heq => ?_⟩
  · rw [samePeriod_iff]
    decide
  · have hsame := (hbytes ..).1 heq
    rw [samePeriod_iff] at hsame
    exact absurd hsame (by decide)

/-! ## Clients -/

variable {a b p a' b' p' : String}

/-- Texts that make up the same text together are the same, if those before the last have the same
lengths. -/
theorem eq_of_append_eq (happend : a ++ b ++ p = a' ++ b' ++ p') (ha : a.length = a'.length)
    (hb : b.length = b'.length) : a = a' ∧ b = b' ∧ p = p' := by
  rw [String.append_assoc, String.append_assoc, ← String.toList_inj] at happend
  simp only [String.toList_append] at happend
  obtain ⟨hfirst, hrest⟩ := List.append_inj happend (by simpa only [String.length_toList] using ha)
  obtain ⟨hsecond, hthird⟩ := List.append_inj hrest (by simpa only [String.length_toList] using hb)
  exact ⟨String.toList_inj.1 hfirst, String.toList_inj.1 hsecond, String.toList_inj.1 hthird⟩

theorem bytes_eq_iff (h : Hasher) (t : Timestamp) :
    bytesOf (h.message a b p t) = bytesOf (h.message a' b' p' t) ↔
      a ++ b ++ p = a' ++ b' ++ p' := by
  rw [bytesOf_inj, Hasher.message, Hasher.message, String.append_left_inj, String.append_left_inj]

/-- **A hash tells clients apart by one text.** At any instant, two clients are hashed from the same
bytes exactly if address, user agent and project make up the same text together. So they are the
same in all three if the addresses have the same length and the user agents too, and a change of one
of the three alone always changes the bytes. -/
theorem bytes_eq_iff_append_eq (h : Hasher) (t : Timestamp) (a b p a' b' p' : String) :
    (bytesOf (h.message a b p t) = bytesOf (h.message a' b' p' t) ↔
        a ++ b ++ p = a' ++ b' ++ p') ∧
      (bytesOf (h.message a b p t) = bytesOf (h.message a' b' p' t) ∧
          a.length = a'.length ∧ b.length = b'.length ↔ a = a' ∧ b = b' ∧ p = p') ∧
      (bytesOf (h.message a b p t) = bytesOf (h.message a' b p t) ↔ a = a') ∧
      (bytesOf (h.message a b p t) = bytesOf (h.message a b' p t) ↔ b = b') ∧
      (bytesOf (h.message a b p t) = bytesOf (h.message a b p' t) ↔ p = p') := by
  refine ⟨bytes_eq_iff h t, ⟨?_, ?_⟩, ?_, ?_, ?_⟩
  · rintro ⟨heq, ha, hb⟩
    exact eq_of_append_eq ((bytes_eq_iff h t).1 heq) ha hb
  · rintro ⟨rfl, rfl, rfl⟩
    exact ⟨rfl, rfl, rfl⟩
  · rw [bytes_eq_iff, String.append_left_inj, String.append_left_inj]
  · rw [bytes_eq_iff, String.append_left_inj, String.append_right_inj]
  · rw [bytes_eq_iff, String.append_right_inj]

/-- A digit that moves from the end of the address to the beginning of the user agent leaves the
bytes as they are. -/
theorem bytes_not_injective :
    ¬ ∀ (salt : String) (hours : ℕ) (h : Hasher), Hasher.new salt hours = .ok h →
      ∀ (t : Timestamp) (a b p a' b' p' : String),
        bytesOf (h.message a b p t) = bytesOf (h.message a' b' p' t) →
          a = a' ∧ b = b' ∧ p = p' := by
  intro hinjective
  have hsame := hinjective "0123456789abcdef0123456789abcdef" 24 _ rfl ⟨1772366400, 0⟩
    "203.0.113.10" "Bot/1.0" "shop" "203.0.113.1" "0Bot/1.0" "shop"
    ((bytes_eq_iff _ _).2 (by decide))
  exact absurd hsame.1 (by decide)

end Visitor

end Footfall
