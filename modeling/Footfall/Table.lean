/-!
# Tables

A table holds one value for each of finitely many keys, in the order in which the keys were first
put in. No key occurs twice, which is part of the type.

* `Table.find?` looks a key up.
* `Table.put` sets the value of a key, `Table.erase` removes a key.
* `Table.retain` keeps the entries that satisfy a condition.
-/

namespace Footfall

namespace Table

variable {κ ν : Type} [DecidableEq κ]

/-- Set the value of a key in a list of entries. -/
def putInto (key : κ) (value : ν) : List (κ × ν) → List (κ × ν)
  | [] => [(key, value)]
  | (k, v) :: r => if k = key then (key, value) :: r else (k, v) :: putInto key value r

theorem mem_keys_putInto {key k : κ} {value : ν} {entries : List (κ × ν)} :
    k ∈ (putInto key value entries).map (·.1) ↔ k = key ∨ k ∈ entries.map (·.1) := by
  induction entries with
  | nil => simp [putInto]
  | cons e r ih => grind [putInto]

theorem nodup_putInto (key : κ) (value : ν) {entries : List (κ × ν)}
    (h : (entries.map (·.1)).Nodup) : ((putInto key value entries).map (·.1)).Nodup := by
  induction entries with
  | nil => simp [putInto]
  | cons e r ih =>
    rw [List.map_cons, List.nodup_cons] at h
    by_cases he : e.1 = key
    · rw [putInto, if_pos he, List.map_cons, List.nodup_cons]
      exact ⟨he ▸ h.1, h.2⟩
    · rw [putInto, if_neg he, List.map_cons, List.nodup_cons, mem_keys_putInto]
      exact ⟨fun hk => hk.elim he h.1, ih h.2⟩

end Table

/-- A table of values by key. -/
structure Table (κ ν : Type) where
  entries : List (κ × ν) := []
  /-- No key occurs twice. -/
  nodup : (entries.map (·.1)).Nodup := by simp

namespace Table

variable {κ ν : Type} [DecidableEq κ]

/-- The value of a key. -/
def find? (t : Table κ ν) (key : κ) : Option ν :=
  (t.entries.find? fun e => e.1 = key).map (·.2)

/-- Is there a value for the key? -/
def has (t : Table κ ν) (key : κ) : Bool := (t.find? key).isSome

/-- Set the value of a key. -/
def put (t : Table κ ν) (key : κ) (value : ν) : Table κ ν :=
  ⟨putInto key value t.entries, nodup_putInto key value t.nodup⟩

/-- Remove a key. -/
def erase (t : Table κ ν) (key : κ) : Table κ ν :=
  ⟨t.entries.filter fun e => e.1 ≠ key, t.nodup.sublist (List.filter_sublist.map _)⟩

/-- Keep the entries whose values satisfy a condition. -/
def retain (t : Table κ ν) (keep : ν → Bool) : Table κ ν :=
  ⟨t.entries.filter fun e => keep e.2, t.nodup.sublist (List.filter_sublist.map _)⟩

/-- The number of entries. -/
def size (t : Table κ ν) : Nat := t.entries.length

end Table

end Footfall
