import Mathlib.Order.Defs.LinearOrder
import Footfall.Time.Timestamp

/-!
# The order of instants, and time that passes

Instants are compared by their seconds and, within a second, by their fractions. This is a linear
order (`Timestamp.instLinearOrder`), so sorting and comparing events by time needs no laws of its
own. Readings of the steady clock are integers; the time that passes between them adds up
(`elapsed_add`) and is monotone in both readings.
-/

namespace Footfall

namespace Timestamp

theorem le_iff {a b : Timestamp} :
    a ≤ b ↔ a.seconds < b.seconds ∨ a.seconds = b.seconds ∧ a.fraction ≤ b.fraction := Iff.rfl

theorem lt_iff {a b : Timestamp} :
    a < b ↔ a.seconds < b.seconds ∨ a.seconds = b.seconds ∧ a.fraction < b.fraction := Iff.rfl

/-- Instants are linearly ordered. -/
instance instLinearOrder : LinearOrder Timestamp where
  le_refl a := le_iff.2 (Or.inr ⟨rfl, Nat.le_refl _⟩)
  le_trans a b c hab hbc := by
    rw [le_iff] at hab hbc ⊢
    omega
  lt_iff_le_not_ge a b := by
    rw [lt_iff, le_iff, le_iff]
    omega
  le_antisymm a b hab hba := by
    rw [le_iff] at hab hba
    obtain ⟨s, f⟩ := a
    obtain ⟨s', f'⟩ := b
    simp only [Timestamp.mk.injEq] at hab hba ⊢
    omega
  le_total a b := by
    rw [le_iff, le_iff]
    omega
  toDecidableLE := inferInstance
  toDecidableEq := inferInstance
  toDecidableLT := inferInstance

@[simp] theorem date_ofDate (d : Date) : (ofDate d).date = d := by
  obtain ⟨day⟩ := d
  simp only [date, ofDate, Date.mk.injEq]
  omega

theorem seconds_ofMicros (us : Int) : (ofMicros us).seconds = us / 1000000 := by
  simp only [ofMicros, ofNanos, microsecond, second]
  omega

end Timestamp

/-! ## The steady clock -/

section Clock

variable {a b c : Moment}

theorem elapsed_of_le (h : a ≤ b) : (elapsed a b : Int) = b - a := by
  unfold elapsed Moment at *
  omega

theorem sub_lt_of_elapsed_lt {n : Nat} (h : elapsed a b < n) : b - n < a := by
  unfold elapsed Moment at *
  omega

theorem add_le_of_le_elapsed {n : Nat} (hn : 0 < n) (h : n ≤ elapsed a b) : a + n ≤ b := by
  unfold elapsed Moment at *
  omega

@[simp] theorem elapsed_of_ge (h : b ≤ a) : elapsed a b = 0 := by
  unfold elapsed Moment at *
  omega

theorem elapsed_pos (h : a < b) : 0 < elapsed a b := by
  unfold elapsed Moment at *
  omega

theorem le_of_elapsed_pos (h : 0 < elapsed a b) : a ≤ b := by
  unfold elapsed Moment at *
  omega

theorem elapsed_add (hab : a ≤ b) (hbc : b ≤ c) : elapsed a b + elapsed b c = elapsed a c := by
  unfold elapsed Moment at *
  omega

theorem elapsed_le_right (h : b ≤ c) : elapsed a b ≤ elapsed a c := by
  unfold elapsed Moment at *
  omega

theorem elapsed_le_left (h : a ≤ b) : elapsed b c ≤ elapsed a c := by
  unfold elapsed Moment at *
  omega

/-- Something can start before a moment and before all of a list of moments. -/
theorem exists_start {β : Type} (steps : List (Moment × β)) (b : Moment) :
    ∃ start, start ≤ b ∧ ∀ s ∈ steps, start ≤ s.1 := by
  induction steps with
  | nil => exact ⟨b, Int.le_refl b, by simp⟩
  | cons s r ih =>
    obtain ⟨start, hb, hr⟩ := ih
    have hfirst : min s.1 start ≤ s.1 := Int.min_le_left _ _
    have hrest : min s.1 start ≤ start := Int.min_le_right _ _
    refine ⟨min s.1 start, Int.le_trans hrest hb, List.forall_mem_cons.2 ⟨hfirst, ?_⟩⟩
    exact fun s' hs' => Int.le_trans hrest (hr s' hs')

end Clock

end Footfall
