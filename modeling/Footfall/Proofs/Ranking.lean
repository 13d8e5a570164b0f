import Mathlib.Data.Finset.Card
import Mathlib.Data.List.MinMax
import Mathlib.Data.List.Nodup
import Footfall.Ranking

/-!
# Distinct values and stable sorting

* `distinct` lists exactly the values of a list (`mem_distinct`), each once (`nodup_distinct`) and
  in order of first appearance (`pairwise_distinct`), and nothing else does (`eq_distinct`). So
  counting in it is counting in the set of values (`countP_distinct`). Grouping a list by its
  distinct keys neither loses nor doubles a value (`flatMap_filter_distinct_perm`).
* `sortBy` puts a list into stable order (`stableOrder_sortBy`): its keys ascend, and the values
  with one key are those of the list, in the order of the list. There is only one such order
  (`stableOrder_iff`). So the first value is the first one of the list with the smallest key
  (`head?_sortBy`), and a list in order stays as it is (`sortBy_of_pairwise`).
* The first and the last value with some property in a sorted list are, in the list as it was, the
  first one with the smallest key and the last one with the largest (`find?_sortBy`,
  `find?_reverse_sortBy`). `argmin_filter_eq_some_iff` and `argmax_reverse_filter_eq_some_iff` say
  where these are.
-/

namespace Footfall

section Distinct

variable {α : Type} [DecidableEq α]

@[simp] theorem mem_distinct {a : α} {xs : List α} : a ∈ distinct xs ↔ a ∈ xs := by
  induction xs with
  | nil => simp [distinct]
  | cons b r ih =>
    simp only [distinct, List.mem_cons, List.mem_filter, ih, decide_eq_true_eq]
    tauto

theorem nodup_distinct (xs : List α) : (distinct xs).Nodup := by
  induction xs with
  | nil => exact List.nodup_nil
  | cons b r ih =>
    rw [distinct, List.nodup_cons]
    exact ⟨by simp, ih.filter _⟩

/-- A value at the end is listed at the end, unless it came before. -/
theorem distinct_concat (xs : List α) (a : α) :
    distinct (xs ++ [a]) = if a ∈ xs then distinct xs else distinct xs ++ [a] := by
  induction xs with
  | nil => rfl
  | cons b r ih =>
    rw [List.cons_append, distinct, ih, distinct]
    by_cases hab : a = b
    · subst hab
      by_cases har : a ∈ r <;> simp [har]
    · by_cases har : a ∈ r <;> simp [har, hab]

/-- The distinct values are in order of their first appearance. -/
theorem pairwise_distinct (xs : List α) :
    (distinct xs).Pairwise fun a b => xs.idxOf a < xs.idxOf b := by
  induction xs with
  | nil => exact .nil
  | cons b r ih =>
    have hidx : ∀ {a : α}, a ≠ b → (b :: r).idxOf a = r.idxOf a + 1 :=
      fun h => List.idxOf_cons_ne r (Ne.symm h)
    rw [distinct, List.pairwise_cons]
    constructor
    · intro a ha
      have hne : a ≠ b := by simpa using (List.mem_filter.1 ha).2
      rw [List.idxOf_cons_self, hidx hne]
      exact Nat.succ_pos _
    · refine (ih.filter _).imp_of_mem fun {a c} ha hc hlt => ?_
      have hane : a ≠ b := by simpa using (List.mem_filter.1 ha).2
      have hcne : c ≠ b := by simpa using (List.mem_filter.1 hc).2
      rw [hidx hane, hidx hcne]
      exact Nat.succ_lt_succ hlt

/-- Whatever has the values of a list once each, in order of first appearance, are its distinct
values. -/
theorem eq_distinct {xs ys : List α} (hnodup : ys.Nodup) (hmem : ∀ a, a ∈ ys ↔ a ∈ xs)
    (hfirst : ys.Pairwise fun a b => xs.idxOf a < xs.idxOf b) : ys = distinct xs := by
  have hperm : ys.Perm (distinct xs) :=
    (List.perm_ext_iff_of_nodup hnodup (nodup_distinct xs)).2 fun a => by rw [hmem, mem_distinct]
  exact hperm.eq_of_pairwise (fun a b _ _ hab hba => absurd hab hba.asymm) hfirst
    (pairwise_distinct xs)

theorem distinct_perm {xs ys : List α} (h : xs.Perm ys) : (distinct xs).Perm (distinct ys) :=
  (List.perm_ext_iff_of_nodup (nodup_distinct xs) (nodup_distinct ys)).2 fun a => by
    rw [mem_distinct, mem_distinct, h.mem_iff]

theorem toFinset_distinct (xs : List α) : (distinct xs).toFinset = xs.toFinset := by
  ext a
  simp

/-- Counting among the distinct values is counting in the set of values. -/
theorem countP_distinct (xs : List α) (p : α → Bool) :
    (distinct xs).countP p = (xs.toFinset.filter fun a => p a = true).card := by
  rw [← toFinset_distinct, List.countP_eq_length_filter,
    ← List.toFinset_card_of_nodup ((nodup_distinct xs).filter _), List.toFinset_filter]

theorem length_distinct (xs : List α) : (distinct xs).length = xs.toFinset.card := by
  rw [← toFinset_distinct, List.toFinset_card_of_nodup (nodup_distinct xs)]

theorem length_distinct_le (xs : List α) : (distinct xs).length ≤ xs.length :=
  (length_distinct xs).trans_le (List.toFinset_card_le xs)

theorem distinct_eq_nil_iff {xs : List α} : distinct xs = [] ↔ xs = [] := by
  simp only [List.eq_nil_iff_forall_not_mem, mem_distinct]

/-- Listing the values of each of several different keys lists every value with such a key once. -/
theorem flatMap_filter_perm {β : Type} (key : β → α) {keys : List α} (hkeys : keys.Nodup)
    {xs : List β} (hxs : ∀ x ∈ xs, key x ∈ keys) :
    (keys.flatMap fun k => xs.filter fun x => key x = k).Perm xs := by
  induction keys generalizing xs with
  | nil =>
    obtain rfl : xs = [] := List.eq_nil_iff_forall_not_mem.2 fun x hx => by cases hxs x hx
    exact List.Perm.nil
  | cons k r ih =>
    obtain ⟨hk, hr⟩ := List.nodup_cons.1 hkeys
    -- the groups of the other keys are those of the values that do not have this one
    have hother : (r.flatMap fun j => xs.filter fun x => key x = j) =
        r.flatMap fun j => (xs.filter fun x => !decide (key x = k)).filter fun x => key x = j := by
      refine List.flatMap_congr fun j hj => ?_
      rw [List.filter_filter]
      refine List.filter_congr fun x _ => ?_
      have hjk : j ≠ k := fun h => hk (h ▸ hj)
      by_cases hx : key x = j <;> simp [hx, hjk]
    have hrest : (r.flatMap fun j => xs.filter fun x => key x = j).Perm
        (xs.filter fun x => !decide (key x = k)) := by
      rw [hother]
      refine ih hr fun x hx => ?_
      obtain ⟨hmem, hne⟩ := List.mem_filter.1 hx
      exact (List.mem_cons.1 (hxs x hmem)).resolve_left (by simpa using hne)
    rw [List.flatMap_cons]
    exact (hrest.append_left _).trans (List.filter_append_perm _ xs)

/-- **Grouping a list by a key neither loses nor doubles a value.** -/
theorem flatMap_filter_distinct_perm {β : Type} (key : β → α) (xs : List β) :
    ((distinct (xs.map key)).flatMap fun k => xs.filter fun x => key x = k).Perm xs :=
  flatMap_filter_perm key (nodup_distinct _) fun _ hx => mem_distinct.2 (List.mem_map_of_mem hx)

end Distinct

section Sorting

variable {α β : Type} [LinearOrder β] {key : α → β}

theorem trans_key (key : α → β) (a b c : α) (hab : decide (key a ≤ key b) = true)
    (hbc : decide (key b ≤ key c) = true) : decide (key a ≤ key c) = true := by
  simp only [decide_eq_true_eq] at *
  exact le_trans hab hbc

theorem total_key (key : α → β) (a b : α) :
    (decide (key a ≤ key b) || decide (key b ≤ key a)) = true := by
  simpa using le_total (key a) (key b)

theorem pairwise_sortBy (key : α → β) (xs : List α) :
    (sortBy key xs).Pairwise fun a b => key a ≤ key b := by
  have h := List.pairwise_mergeSort (trans_key key) (total_key key) xs
  simpa only [sortBy, decide_eq_true_eq] using h

theorem sortBy_perm (key : α → β) (xs : List α) : (sortBy key xs).Perm xs :=
  List.mergeSort_perm _ _

theorem sortByDesc_perm (key : α → β) (xs : List α) : (sortByDesc key xs).Perm xs :=
  List.mergeSort_perm _ _

@[simp] theorem mem_sortBy {a : α} {xs : List α} : a ∈ sortBy key xs ↔ a ∈ xs :=
  List.mem_mergeSort

@[simp] theorem length_sortBy (xs : List α) : (sortBy key xs).length = xs.length :=
  List.length_mergeSort _

theorem sortBy_of_pairwise {xs : List α} (h : xs.Pairwise fun a b => key a ≤ key b) :
    sortBy key xs = xs :=
  List.mergeSort_of_pairwise (by simpa only [decide_eq_true_eq] using h)

/-- The list `ys` is `xs` in the order of a key: the keys ascend, and the values with one key are
those of `xs`, in the order of `xs`. -/
structure StableOrder (key : α → β) (xs ys : List α) : Prop where
  ascending : ys.Pairwise fun a b => key a ≤ key b
  stable : ∀ k, ys.filter (fun a => decide (key a = k)) = xs.filter fun a => decide (key a = k)

theorem stableOrder_sortBy (key : α → β) (xs : List α) : StableOrder key xs (sortBy key xs) where
  ascending := pairwise_sortBy key xs
  stable k := by
    -- the values with key `k` are in order already, so sorting keeps them as a sublist
    have hsub : (xs.filter fun a => decide (key a = k)).Sublist (sortBy key xs) := by
      refine List.sublist_mergeSort (trans_key key) (total_key key) ?_ List.filter_sublist
      refine List.pairwise_of_forall_mem_list fun a ha b hb => ?_
      simp only [List.mem_filter, decide_eq_true_eq] at ha hb ⊢
      exact (ha.2.trans hb.2.symm).le
    have hfil := hsub.filter fun a => decide (key a = k)
    rw [List.filter_filter] at hfil
    simp only [Bool.and_self] at hfil
    refine (hfil.eq_of_length ?_).symm
    exact ((sortBy_perm key xs).filter _).length_eq.symm

theorem StableOrder.mem_iff {xs ys : List α} (h : StableOrder key xs ys) {a : α} :
    a ∈ ys ↔ a ∈ xs := by
  have hmem : ∀ zs : List α, a ∈ zs ↔ a ∈ zs.filter fun b => decide (key b = key a) := by simp
  rw [hmem ys, h.stable, ← hmem]

/-- The first of some values with ascending keys has the smallest key. -/
theorem key_le_of_mem_cons {a b : α} {xs : List α}
    (h : (a :: xs).Pairwise fun a b => key a ≤ key b) (hb : b ∈ a :: xs) : key a ≤ key b := by
  rcases List.mem_cons.1 hb with rfl | hb
  · exact le_refl _
  · exact (List.pairwise_cons.1 h).1 b hb

/-- In a stable order equal keys keep whatever order the list was in. -/
theorem StableOrder.pairwise {R : α → α → Prop} {xs ys : List α} (h : StableOrder key xs ys)
    (hxs : xs.Pairwise R) : ys.Pairwise fun a b => key a < key b ∨ key a = key b ∧ R a b := by
  rw [List.pairwise_iff_forall_sublist]
  intro a b hab
  rcases (List.pairwise_iff_forall_sublist.1 h.ascending hab).lt_or_eq with hlt | heq
  · exact Or.inl hlt
  · -- both have one key, so they stand in the list as they stand in its order
    have hsub := hab.filter fun c => decide (key c = key a)
    rw [h.stable, List.filter_eq_self.2 (by simp [heq])] at hsub
    exact Or.inr ⟨heq, List.pairwise_iff_forall_sublist.1 hxs (hsub.trans List.filter_sublist)⟩

theorem StableOrder.eq_of_pairwise {xs ys : List α} (h : StableOrder key xs ys)
    (hxs : xs.Pairwise fun a b => key a ≤ key b) : ys = xs := by
  induction xs generalizing ys with
  | nil => exact List.eq_nil_iff_forall_not_mem.2 fun a ha => by cases h.mem_iff.1 ha
  | cons a xs ih =>
    cases ys with
    | nil => cases h.mem_iff.2 List.mem_cons_self
    | cons b ys =>
      -- both heads have the smallest key, so both are the first value with that key
      have hkey : key b = key a :=
        le_antisymm (key_le_of_mem_cons h.ascending (h.mem_iff.2 List.mem_cons_self))
          (key_le_of_mem_cons hxs (h.mem_iff.1 List.mem_cons_self))
      have hheads := h.stable (key a)
      rw [List.filter_cons_of_pos (by simpa using hkey), List.filter_cons_of_pos (by simp)]
        at hheads
      obtain rfl : b = a := (List.cons.inj hheads).1
      rw [ih ⟨(List.pairwise_cons.1 h.ascending).2, fun k => ?_⟩ (List.pairwise_cons.1 hxs).2]
      have htail := h.stable k
      by_cases hk : key b = k
      · rw [List.filter_cons_of_pos (by simpa using hk),
          List.filter_cons_of_pos (by simpa using hk)] at htail
        exact (List.cons.inj htail).2
      · rwa [List.filter_cons_of_neg (by simpa using hk),
          List.filter_cons_of_neg (by simpa using hk)] at htail

/-- **There is only one stable order** of a list. -/
theorem stableOrder_iff {xs ys : List α} : StableOrder key xs ys ↔ ys = sortBy key xs := by
  constructor
  · intro h
    have hsorted := stableOrder_sortBy key xs
    exact StableOrder.eq_of_pairwise
      ⟨h.ascending, fun k => (h.stable k).trans (hsorted.stable k).symm⟩ hsorted.ascending
  · rintro rfl
    exact stableOrder_sortBy key xs

/-- A list sorted by a descending key is in order of the key, and equal keys keep whatever order
the list was in. -/
theorem pairwise_sortByDesc {R : α → α → Prop} (key : α → β) {xs : List α} (hxs : xs.Pairwise R) :
    (sortByDesc key xs).Pairwise fun a b => key b < key a ∨ key a = key b ∧ R a b :=
  (stableOrder_sortBy (OrderDual.toDual ∘ key) xs).pairwise hxs

/-- Among the values with the smallest key, the first one of the list is the one found. -/
theorem head?_filter_of_argmin {xs : List α} {m : α} (h : xs.argmin key = some m) :
    (xs.filter fun a => decide (key a = key m)).head? = some m := by
  induction xs generalizing m with
  | nil => cases h
  | cons a r ih =>
    rw [List.argmin_cons] at h
    cases hr : r.argmin key with
    | none =>
      rw [hr] at h
      obtain rfl := Option.some.inj h
      simp
    | some c =>
      simp only [hr] at h
      split_ifs at h with hlt
      · obtain rfl := Option.some.inj h
        rw [List.filter_cons_of_neg (by simpa using hlt.ne')]
        exact ih hr
      · obtain rfl := Option.some.inj h
        simp

/-- **The first value of a sorted list** is the first one of the list with the smallest key. -/
theorem head?_sortBy (key : α → β) (xs : List α) : (sortBy key xs).head? = xs.argmin key := by
  cases hm : xs.argmin key with
  | none =>
    obtain rfl := List.argmin_eq_none.1 hm
    rw [sortBy, List.mergeSort_nil]
    rfl
  | some m =>
    have hmem : m ∈ sortBy key xs := mem_sortBy.2 (List.argmin_mem hm)
    obtain ⟨a, r, heq⟩ := List.exists_cons_of_ne_nil (List.ne_nil_of_mem hmem)
    have hascending : (a :: r).Pairwise fun a b => key a ≤ key b := heq ▸ pairwise_sortBy key xs
    have ha : a ∈ xs := mem_sortBy.1 (heq ▸ List.mem_cons_self)
    have hkey : key a = key m := by
      refine le_antisymm ?_ (List.le_of_mem_argmin ha hm)
      rcases List.mem_cons.1 (heq ▸ hmem) with rfl | hr
      · exact le_refl _
      · exact (List.pairwise_cons.1 hascending).1 m hr
    have hstable := (stableOrder_sortBy key xs).stable (key m)
    rw [heq, List.filter_cons_of_pos (by simpa using hkey)] at hstable
    rw [heq, ← head?_filter_of_argmin hm, ← hstable]
    rfl

/-- Sorting keeps its order when values are left out. -/
theorem filter_sortBy (key : α → β) (p : α → Bool) (xs : List α) :
    (sortBy key xs).filter p = sortBy key (xs.filter p) := by
  have hsorted := stableOrder_sortBy key xs
  refine stableOrder_iff.1 ⟨hsorted.ascending.filter _, fun k => ?_⟩
  rw [List.filter_comm, hsorted.stable, List.filter_comm]

/-- A sorted list read backwards is the reversed list, sorted by the descending key. -/
theorem reverse_sortBy (key : α → β) (xs : List α) :
    (sortBy key xs).reverse = sortBy (OrderDual.toDual ∘ key) xs.reverse := by
  have hsorted := stableOrder_sortBy key xs
  refine stableOrder_iff.1 ⟨List.pairwise_reverse.2 hsorted.ascending, fun k => ?_⟩
  rw [List.filter_reverse, List.filter_reverse]
  exact congrArg List.reverse (hsorted.stable k.ofDual)

/-- **The first value of a sorted list with some property.** -/
theorem find?_sortBy (key : α → β) (p : α → Bool) (xs : List α) :
    (sortBy key xs).find? p = (xs.filter p).argmin key := by
  rw [← List.head?_filter, filter_sortBy, head?_sortBy]

/-- **The last value of a sorted list with some property.** -/
theorem find?_reverse_sortBy (key : α → β) (p : α → Bool) (xs : List α) :
    (sortBy key xs).reverse.find? p = (xs.filter p).reverse.argmax key := by
  rw [reverse_sortBy, find?_sortBy, List.filter_reverse]
  rfl

/-- Sorting does not look at the order of a list in which no two different values go either way. -/
theorem mergeSort_eq_of_perm {le : α → α → Bool}
    (htrans : ∀ a b c, le a b = true → le b c = true → le a c = true)
    (htotal : ∀ a b, (le a b || le b a) = true) {xs ys : List α} (h : xs.Perm ys)
    (hantisymm : ∀ a ∈ xs, ∀ b ∈ xs, le a b = true → le b a = true → a = b) :
    xs.mergeSort le = ys.mergeSort le := by
  have hperm : (xs.mergeSort le).Perm (ys.mergeSort le) :=
    (List.mergeSort_perm xs le).trans (h.trans (List.mergeSort_perm ys le).symm)
  refine hperm.eq_of_pairwise (fun a b ha hb => ?_) (List.pairwise_mergeSort htrans htotal xs)
    (List.pairwise_mergeSort htrans htotal ys)
  exact hantisymm a (List.mem_mergeSort.1 ha) b (h.mem_iff.2 (List.mem_mergeSort.1 hb))

theorem sortBy_eq_of_perm {xs ys : List α} (h : xs.Perm ys)
    (hkey : ∀ a ∈ xs, ∀ b ∈ xs, key a = key b → a = b) : sortBy key xs = sortBy key ys := by
  refine mergeSort_eq_of_perm (trans_key key) (total_key key) h fun a ha b hb hab hba => ?_
  simp only [decide_eq_true_eq] at hab hba
  exact hkey a ha b hb (le_antisymm hab hba)

/-! ## Smallest and largest keys -/

/-- The value that `argmin` finds is the first one with the smallest key. -/
theorem argmin_eq_some_iff_append {xs : List α} {m : α} : xs.argmin key = some m ↔
    ∃ before after, xs = before ++ m :: after ∧ (∀ a ∈ before, key m < key a) ∧
      ∀ a ∈ after, key m ≤ key a := by
  constructor
  · intro h
    induction xs with
    | nil => cases h
    | cons a r ih =>
      rw [List.argmin_cons] at h
      cases hr : r.argmin key with
      | none =>
        rw [hr] at h
        obtain rfl := Option.some.inj h
        obtain rfl := List.argmin_eq_none.1 hr
        exact ⟨[], [], rfl, by simp, by simp⟩
      | some c =>
        simp only [hr] at h
        split_ifs at h with hlt
        · obtain rfl := Option.some.inj h
          obtain ⟨before, after, rfl, hbefore, hafter⟩ := ih hr
          exact ⟨a :: before, after, rfl, List.forall_mem_cons.2 ⟨hlt, hbefore⟩, hafter⟩
        · obtain rfl := Option.some.inj h
          refine ⟨[], r, rfl, by simp, fun b hb => ?_⟩
          exact (not_lt.1 hlt).trans (List.le_of_mem_argmin hb hr)
  · rintro ⟨before, after, rfl, hbefore, hafter⟩
    induction before with
    | nil =>
      rw [List.nil_append, List.argmin_cons]
      cases hr : after.argmin key with
      | none => rfl
      | some c => simp [(hafter c (List.argmin_mem hr)).not_gt]
    | cons b r ih =>
      rw [List.cons_append, List.argmin_cons, ih fun a ha => hbefore a (List.mem_cons_of_mem _ ha)]
      simp [hbefore b List.mem_cons_self]

theorem argmin_filter_eq_some_iff (key : α → β) {p : α → Bool} {xs : List α} {m : α} :
    (xs.filter p).argmin key = some m ↔
      ∃ before after, xs = before ++ m :: after ∧ p m = true ∧
        (∀ a ∈ before, p a = true → key m < key a) ∧ ∀ a ∈ after, p a = true → key m ≤ key a := by
  rw [argmin_eq_some_iff_append]
  constructor
  · rintro ⟨l, r, heq, hl, hr⟩
    obtain ⟨l', r', rfl, rfl, hcons⟩ := List.filter_eq_append_iff.1 heq
    obtain ⟨skipped, after, rfl, hskipped, hp, rfl⟩ := List.filter_eq_cons_iff.1 hcons
    refine ⟨l' ++ skipped, after, by simp, hp, fun a ha hpa => ?_, fun a ha hpa => ?_⟩
    · rcases List.mem_append.1 ha with ha | ha
      · exact hl a (List.mem_filter.2 ⟨ha, hpa⟩)
      · exact absurd hpa (hskipped a ha)
    · exact hr a (List.mem_filter.2 ⟨ha, hpa⟩)
  · rintro ⟨before, after, rfl, hp, hbefore, hafter⟩
    refine ⟨before.filter p, after.filter p, by simp [hp], fun a ha => ?_, fun a ha => ?_⟩
    · obtain ⟨hmem, hpa⟩ := List.mem_filter.1 ha
      exact hbefore a hmem hpa
    · obtain ⟨hmem, hpa⟩ := List.mem_filter.1 ha
      exact hafter a hmem hpa

theorem argmax_reverse_filter_eq_some_iff (key : α → β) {p : α → Bool} {xs : List α} {m : α} :
    (xs.filter p).reverse.argmax key = some m ↔
      ∃ before after, xs = before ++ m :: after ∧ p m = true ∧
        (∀ a ∈ before, p a = true → key a ≤ key m) ∧ ∀ a ∈ after, p a = true → key a < key m := by
  rw [← List.filter_reverse]
  refine (argmin_filter_eq_some_iff (OrderDual.toDual ∘ key)).trans ?_
  constructor
  · rintro ⟨before, after, heq, hp, hbefore, hafter⟩
    refine ⟨after.reverse, before.reverse, ?_, hp, ?_, ?_⟩
    · rw [← List.reverse_reverse xs, heq]
      simp
    · exact fun a ha => hafter a (List.mem_reverse.1 ha)
    · exact fun a ha => hbefore a (List.mem_reverse.1 ha)
  · rintro ⟨before, after, rfl, hp, hbefore, hafter⟩
    exact ⟨after.reverse, before.reverse, by simp, hp,
      fun a ha => hafter a (List.mem_reverse.1 ha), fun a ha => hbefore a (List.mem_reverse.1 ha)⟩
end Sorting

end Footfall
