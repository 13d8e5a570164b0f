import Footfall.Gathering
import Footfall.Proofs.Ranking
import Footfall.Proofs.Table

/-!
# What a pass gathers

After every value the rows of a pass are those of the keys that were met, each made of the values
with its key, and every row is found at its place (`Gathering.Holds.add`). So in the end each of the
distinct keys has its row (`gather_eq`), and a tally has the number of occurrences of each of the
distinct values (`tally_eq`).
-/

namespace Footfall

variable {α κ ρ : Type} [DecidableEq κ] {key : α → κ} {new : κ → ρ} {change : ρ → α → ρ}

/-- The row of a key: what the values with that key make of a new row. -/
def rowOf (key : α → κ) (new : κ → ρ) (change : ρ → α → ρ) (xs : List α) (k : κ) : ρ :=
  (xs.filter fun a => key a = k).foldl change (new k)

theorem rowOf_concat_self (xs : List α) (a : α) :
    rowOf key new change (xs ++ [a]) (key a) = change (rowOf key new change xs (key a)) a := by
  simp [rowOf]

theorem rowOf_concat_of_ne {xs : List α} {a : α} {k : κ} (h : key a ≠ k) :
    rowOf key new change (xs ++ [a]) k = rowOf key new change xs k := by
  simp [rowOf, h]

theorem rowOf_of_notMem {xs : List α} {k : κ} (h : k ∉ xs.map key) :
    rowOf key new change xs k = new k := by
  have hnone : xs.filter (fun a => key a = k) = [] := by
    refine List.filter_eq_nil_iff.2 fun a ha => ?_
    rw [decide_eq_true_eq]
    exact fun hk => h (hk ▸ List.mem_map_of_mem ha)
  rw [rowOf, hnone, List.foldl_nil]

namespace Gathering

/-- The rows are those of the values, and the place of a key is where its row is among them. -/
structure Holds (key : α → κ) (new : κ → ρ) (change : ρ → α → ρ) (g : Gathering κ ρ)
    (xs : List α) : Prop where
  places : ∀ k place, g.places.find? k = some place ↔ (distinct (xs.map key))[place]? = some k
  rows : g.rows = (distinct (xs.map key)).map (rowOf key new change xs)

theorem holds_nil : Holds key new change {} [] :=
  ⟨fun k place => by simp [distinct], rfl⟩

variable {g : Gathering κ ρ} {xs : List α} {a : α}

theorem Holds.length_rows (h : g.Holds key new change xs) :
    g.rows.length = (distinct (xs.map key)).length := by
  rw [h.rows, List.length_map]

theorem distinct_map_concat (key : α → κ) (xs : List α) (a : α) :
    distinct ((xs ++ [a]).map key) =
      if key a ∈ xs.map key then distinct (xs.map key) else distinct (xs.map key) ++ [key a] := by
  rw [List.map_append, List.map_singleton, distinct_concat]

/-- A value whose key has a row changes that row, and no other. -/
theorem Holds.join (h : g.Holds key new change xs) {place : ℕ}
    (hplace : g.places.find? (key a) = some place) :
    (g.add key new change a).Holds key new change (xs ++ [a]) := by
  have hat : (distinct (xs.map key))[place]? = some (key a) := (h.places _ _).1 hplace
  have hkeys : distinct ((xs ++ [a]).map key) = distinct (xs.map key) := by
    rw [distinct_map_concat, if_pos (mem_distinct.1 (List.mem_of_getElem? hat))]
  refine ⟨fun k i => ?_, ?_⟩
  · rw [hkeys, ← h.places, add, hplace]
  · rw [hkeys, add, hplace]
    refine List.ext_getElem? fun i => ?_
    rw [h.rows, List.getElem?_modify, List.getElem?_map, List.getElem?_map]
    cases hk : (distinct (xs.map key))[i]? with
    | none => rfl
    | some k =>
      -- only the row of the key is at the place that was looked up
      have hiff : place = i ↔ key a = k := by
        constructor
        · rintro rfl
          exact Option.some.inj (hat.symm.trans hk)
        · rintro rfl
          exact Option.some.inj (hplace.symm.trans ((h.places _ _).2 hk))
      by_cases hi : place = i
      · simp [hi, ← hiff.1 hi, rowOf_concat_self]
      · simp [hi, rowOf_concat_of_ne (mt hiff.2 hi)]

/-- A value whose key has no row opens it, behind the others. -/
theorem Holds.open (h : g.Holds key new change xs) (hplace : g.places.find? (key a) = none) :
    (g.add key new change a).Holds key new change (xs ++ [a]) := by
  have hnew : key a ∉ distinct (xs.map key) := by
    intro hmem
    obtain ⟨i, hi⟩ := List.mem_iff_getElem?.1 hmem
    rw [(h.places _ _).2 hi] at hplace
    cases hplace
  have hkeys : distinct ((xs ++ [a]).map key) = distinct (xs.map key) ++ [key a] := by
    rw [distinct_map_concat, if_neg (mt mem_distinct.2 hnew)]
  refine ⟨fun k i => ?_, ?_⟩
  · rw [hkeys, add, hplace, Table.find?_put, h.length_rows, List.getElem?_append]
    have hlt : ∀ {k}, (distinct (xs.map key))[i]? = some k → i < (distinct (xs.map key)).length :=
      fun hi => (List.getElem?_eq_some_iff.1 hi).1
    by_cases hk : k = key a
    · subst hk
      have hnone : (distinct (xs.map key))[i]? ≠ some (key a) := fun hi =>
        hnew (List.mem_of_getElem? hi)
      grind
    · grind [h.places k i]
  · rw [hkeys, add, hplace, List.map_append, h.rows]
    refine congrArg₂ _ (List.map_congr_left fun k hk => ?_) ?_
    · have hne : key a ≠ k := fun heq => hnew (heq ▸ hk)
      rw [rowOf_concat_of_ne hne]
    · rw [List.map_singleton, rowOf_concat_self, rowOf_of_notMem (mt mem_distinct.2 hnew)]

theorem Holds.add (h : g.Holds key new change xs) (a : α) :
    (g.add key new change a).Holds key new change (xs ++ [a]) := by
  cases hplace : g.places.find? (key a) with
  | none => exact h.open hplace
  | some place => exact h.join hplace

theorem holds_foldl (xs : List α) :
    (xs.foldl (Gathering.add key new change) {}).Holds key new change xs := by
  induction xs using List.reverseRecOn with
  | nil => exact holds_nil
  | append_singleton xs a ih =>
    rw [List.foldl_concat]
    exact ih.add a

end Gathering

/-- **Every key has its row**, in the order in which the keys first appear. -/
theorem gather_eq (key : α → κ) (new : κ → ρ) (change : ρ → α → ρ) (xs : List α) :
    gather key new change xs = (distinct (xs.map key)).map (rowOf key new change xs) :=
  (Gathering.holds_foldl xs).rows

/-- **A tally counts the occurrences** of every value. -/
theorem tally_eq (xs : List κ) : tally xs = (distinct xs).map fun x => (x, xs.count x) := by
  have hcount : ∀ (x : κ) (n : ℕ) (ys : List κ),
      ys.foldl (fun r (_ : κ) => (r.1, r.2 + 1)) (x, n) = (x, n + ys.length) := by
    intro x n ys
    induction ys generalizing n with
    | nil => rfl
    | cons y r ih => rw [List.foldl_cons, ih, List.length_cons, Nat.add_assoc, Nat.add_comm 1]
  rw [tally, gather_eq, List.map_id]
  refine List.map_congr_left fun x _ => ?_
  rw [rowOf, hcount, Nat.zero_add, ← List.countP_eq_length_filter]
  rfl

/-- Sorting a tally by its values leaves nothing of the order of the list. -/
theorem sortBy_tally_eq_of_perm [LinearOrder κ] {xs ys : List κ} (h : xs.Perm ys) :
    sortBy Prod.fst (tally xs) = sortBy Prod.fst (tally ys) := by
  have hperm : (tally xs).Perm (tally ys) := by
    simp only [tally_eq, h.count_eq]
    exact (distinct_perm h).map _
  refine sortBy_eq_of_perm hperm fun a ha b hb heq => ?_
  rw [tally_eq] at ha hb
  obtain ⟨x, -, rfl⟩ := List.mem_map.1 ha
  obtain ⟨y, -, rfl⟩ := List.mem_map.1 hb
  obtain rfl : x = y := heq
  rfl

end Footfall
