import Mathlib.Data.Finset.Card
import Mathlib.Data.Finset.Insert
import Mathlib.Data.List.Pairwise
import Footfall.Proofs.Ranking
import Footfall.Proofs.Time

/-!
# Which keys were touched most recently

Keys are touched at moments. The touches are listed with the latest first, so the first touch of a
key in the list is its last one (`lastTouched?`), and listing each key once puts the keys in the
order of their last touches (`recency`).

A key is among the first `n` of these exactly if fewer than `n` keys stand before it, which are
those touched since it was (`since`, `mem_take_recency_iff`). If no two keys were touched at the
same moment (`Spaced`), these are the keys whose last touch is later (`Spaced.mem_since_iff`).
-/

namespace Footfall.Recency

variable {κ : Type} [DecidableEq κ]

/-- The keys in the order of their last touches, the latest first. -/
def recency (ts : List (Moment × κ)) : List κ := distinct (ts.map (·.2))

/-- The moment of the last touch of a key. -/
def lastTouched? (ts : List (Moment × κ)) (k : κ) : Option Moment :=
  (ts.find? fun t => t.2 = k).map (·.1)

/-- The keys touched since the last touch of a key. -/
def since (ts : List (Moment × κ)) (k : κ) : Finset κ :=
  ((recency ts).takeWhile fun j => j ≠ k).toFinset

/-- No two keys are touched at the same moment, and the latest touches come first. -/
def Spaced (ts : List (Moment × κ)) : Prop := ts.Pairwise fun a b => b.1 < a.1 ∨ b = a

variable {ts : List (Moment × κ)} {i j k : κ} {s t : Moment}

/-! ## One more touch -/

theorem lastTouched?_cons :
    lastTouched? ((t, k) :: ts) j = if j = k then some t else lastTouched? ts j := by
  unfold lastTouched?
  by_cases h : k = j
  · rw [List.find?_cons_of_pos (by simpa using h), if_pos h.symm]
    rfl
  · rw [List.find?_cons_of_neg (by simpa using h), if_neg (Ne.symm h)]

/-- Leaving a key out of a list takes no other one from before a third. -/
theorem insert_takeWhile_filter (hik : i ≠ k) (l : List κ) :
    insert i ((l.filter fun j => j ≠ i).takeWhile fun j => j ≠ k).toFinset =
      insert i (l.takeWhile fun j => j ≠ k).toFinset := by
  induction l with
  | nil => rfl
  | cons a r ih =>
    by_cases hai : a = i
    · subst hai
      rw [List.filter_cons_of_neg (by simp), List.takeWhile_cons_of_pos (by simpa using hik),
        List.toFinset_cons, Finset.insert_idem, ih]
    · rw [List.filter_cons_of_pos (by simpa using hai)]
      by_cases hak : a = k
      · subst hak
        rw [List.takeWhile_cons_of_neg (by simp), List.takeWhile_cons_of_neg (by simp)]
      · rw [List.takeWhile_cons_of_pos (by simpa using hak),
          List.takeWhile_cons_of_pos (by simpa using hak), List.toFinset_cons, List.toFinset_cons,
          Finset.insert_comm, ih, Finset.insert_comm]

theorem since_cons : since ((t, k) :: ts) j = if j = k then ∅ else insert k (since ts j) := by
  unfold since
  rw [recency, List.map_cons, distinct, ← recency]
  split_ifs with h
  · subst h
    rw [List.takeWhile_cons_of_neg (by simp)]
    rfl
  · rw [List.takeWhile_cons_of_pos (by simpa using Ne.symm h), List.toFinset_cons,
      insert_takeWhile_filter (Ne.symm h)]

/-! ## The first keys -/

theorem mem_of_lastTouched? (h : lastTouched? ts k = some t) : (t, k) ∈ ts := by
  obtain ⟨⟨s, j⟩, hfind, rfl⟩ := Option.map_eq_some_iff.1 h
  obtain rfl : j = k := by simpa using List.find?_some hfind
  exact List.mem_of_find?_eq_some hfind

theorem mem_recency : k ∈ recency ts ↔ ∃ t, lastTouched? ts k = some t := by
  rw [recency, mem_distinct]
  constructor
  · intro h
    obtain ⟨x, hx, rfl⟩ := List.mem_map.1 h
    unfold lastTouched?
    cases hfind : ts.find? (fun t => decide (t.2 = x.2)) with
    | none => exact absurd (List.find?_eq_none.1 hfind x hx) (by simp)
    | some y => exact ⟨y.1, rfl⟩
  · rintro ⟨t, ht⟩
    exact List.mem_map_of_mem (mem_of_lastTouched? ht)

theorem nodup_recency (ts : List (Moment × κ)) : (recency ts).Nodup := nodup_distinct _

theorem since_subset : since ts k ⊆ (recency ts).toFinset := by
  intro j hj
  exact List.mem_toFinset.2 (List.takeWhile_subset _ (List.mem_toFinset.1 hj))

/-- A value is among the first ones exactly if few stand before it. -/
theorem mem_take_iff {l : List κ} {n : ℕ} :
    k ∈ l.take n ↔ k ∈ l ∧ (l.takeWhile fun j => j ≠ k).length < n := by
  induction l generalizing n with
  | nil => simp
  | cons a r ih =>
    cases n with
    | zero => simp
    | succ n =>
      rw [List.take_succ_cons, List.mem_cons, List.mem_cons, ih]
      by_cases hak : a = k
      · subst hak
        simp
      · rw [List.takeWhile_cons_of_pos (by simpa using hak), List.length_cons,
          Nat.add_lt_add_iff_right]
        simp [Ne.symm hak]

/-- **A key is among the most recent ones exactly if few were touched since it was.** -/
theorem mem_take_recency_iff {n : ℕ} :
    k ∈ (recency ts).take n ↔ k ∈ recency ts ∧ (since ts k).card < n := by
  have hnodup : ((recency ts).takeWhile fun j => j ≠ k).Nodup :=
    (nodup_recency ts).sublist (List.takeWhile_sublist _)
  rw [mem_take_iff, since, List.toFinset_card_of_nodup hnodup]

/-! ## Touches at different moments -/

namespace Spaced

/-- Different keys were last touched at different moments. -/
theorem eq_of_lastTouched? (h : Spaced ts) (hj : lastTouched? ts j = some t)
    (hk : lastTouched? ts k = some t) : j = k := by
  have hsame : ts.Pairwise fun a b => a.1 = b.1 → a = b := by
    refine h.imp ?_
    rintro a b (hlt | rfl) heq
    · exact absurd heq.symm (ne_of_lt hlt)
    · rfl
  have hflip : ts.Pairwise (flip fun a b => a.1 = b.1 → a = b) :=
    hsame.imp fun hab hba => (hab hba.symm).symm
  have heq := List.Pairwise.forall_of_forall_of_flip (fun _ _ _ => rfl) hsame hflip
    (mem_of_lastTouched? hj) (mem_of_lastTouched? hk) rfl
  exact (Prod.mk.inj heq).2

/-- A key was touched since another one exactly if its last touch is later. -/
theorem mem_since_iff (h : Spaced ts) (hj : lastTouched? ts j = some s)
    (hk : lastTouched? ts k = some t) : j ∈ since ts k ↔ t < s := by
  induction ts with
  | nil => cases hj
  | cons x r ih =>
    obtain ⟨u, i⟩ := x
    obtain ⟨hhead, hrest⟩ := List.pairwise_cons.1 h
    -- the other keys were touched before this one
    have hearlier : ∀ {m l}, l ≠ i → lastTouched? r l = some m → m < u := by
      intro m l hl hm
      rcases hhead (m, l) (mem_of_lastTouched? hm) with hlt | heq
      · exact hlt
      · exact absurd (Prod.mk.inj heq).2 hl
    rw [lastTouched?_cons] at hj hk
    rw [since_cons]
    by_cases hki : k = i
    · rw [if_pos hki] at hk ⊢
      obtain rfl := Option.some.inj hk
      have hle : s ≤ u := by
        split_ifs at hj with hji
        · exact (Option.some.inj hj).ge
        · exact (hearlier hji hj).le
      simpa using hle
    · rw [if_neg hki] at hk ⊢
      rw [Finset.mem_insert]
      by_cases hji : j = i
      · rw [if_pos hji] at hj
        obtain rfl := Option.some.inj hj
        exact iff_of_true (Or.inl hji) (hearlier hki hk)
      · rw [if_neg hji] at hj
        rw [ih hrest hj hk]
        simp [hji]

/-- What was touched since the later one of two keys was also touched since the earlier one. -/
theorem since_subset_since (h : Spaced ts) (hj : lastTouched? ts j = some s)
    (hk : lastTouched? ts k = some t) (hlt : s < t) : since ts k ⊆ since ts j := by
  intro i hi
  obtain ⟨u, hu⟩ := mem_recency.1 (List.mem_toFinset.1 (since_subset hi))
  have hlater : t < u := (h.mem_since_iff hu hk).1 hi
  exact (h.mem_since_iff hu hj).2 (hlt.trans hlater)

end Spaced

end Footfall.Recency
