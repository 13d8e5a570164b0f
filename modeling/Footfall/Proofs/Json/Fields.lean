import Mathlib.Data.List.Induction
import Footfall.Json.Value

/-!
# Looking fields up in objects

Adding a field to an object changes what a look-up of its name finds and nothing else
(`lookup_insertField`). So an object made of a list of fields has, under every name, the value that
was listed last (`field?_ofFields`). In fields that are sorted, the value under a name is that of
the only field with the name (`field?_eq_some_iff`).
-/

namespace Footfall.Json

/-- Adding a field changes the value under its own name only. -/
theorem lookup_insertField {α : Type} (name k : String) (value : α) (fields : List (String × α)) :
    ((insertField name value fields).find? fun f => f.1 == k).map (·.2) =
      if name = k then some value else (fields.find? fun f => f.1 == k).map (·.2) := by
  induction fields with
  | nil => by_cases hk : name = k <;> simp [insertField, hk]
  | cons f r ih =>
    obtain ⟨n, v⟩ := f
    rw [insertField]
    by_cases hn : name = n
    · subst hn
      by_cases hk : name = k <;> simp [hk]
    by_cases hlt : name < n
    · rw [if_neg hn, if_pos hlt, List.find?_cons]
      by_cases hk : name = k
      · simp [hk]
      · rw [if_neg hk, beq_false_of_ne hk]
    -- the name belongs further back
    · rw [if_neg hn, if_neg hlt, List.find?_cons, List.find?_cons]
      by_cases hnk : n = k
      · have hk : name ≠ k := fun h => hn (h.trans hnk.symm)
        simp [hnk, hk]
      · rw [beq_false_of_ne hnk]
        exact ih

/-- A field of an object has the value that was listed last under its name. -/
theorem field?_ofFields (fields : List (String × Value)) (k : String) :
    (Value.ofFields fields).field? k = (fields.reverse.find? fun f => f.1 == k).map (·.2) := by
  rw [Value.ofFields, Value.field?]
  induction fields using List.reverseRecOn with
  | nil => rfl
  | append_singleton fields f ih =>
    rw [List.foldl_append, List.foldl_cons, List.foldl_nil, lookup_insertField, ih,
      List.reverse_append, List.reverse_singleton, List.singleton_append, List.find?_cons]
    by_cases hk : f.1 = k
    · simp [hk]
    · rw [if_neg hk, beq_false_of_ne hk]

/-- Looking a name up in sorted fields finds the field with that name. -/
theorem field?_eq_some_iff {fields : List (String × Value)}
    (h : fields.Pairwise fun f g => f.1 < g.1) {name : String} {v : Value} :
    (Value.object fields).field? name = some v ↔ (name, v) ∈ fields := by
  induction fields with
  | nil => simp [Value.field?]
  | cons f r ih =>
    obtain ⟨n, w⟩ := f
    obtain ⟨hlt, hr⟩ := List.pairwise_cons.1 h
    have hcons : (Value.object ((n, w) :: r)).field? name =
        if n = name then some w else (Value.object r).field? name := by
      by_cases hn : n = name <;> simp [Value.field?, hn]
    rw [hcons, List.mem_cons, ← ih hr]
    split_ifs with hn
    · subst hn
      -- the name does not occur again behind its place
      have hnone : (Value.object r).field? n ≠ some v := fun hv =>
        String.lt_irrefl n (hlt (n, v) ((ih hr).1 hv))
      simp [hnone, eq_comm]
    · simp [Ne.symm hn]

end Footfall.Json
