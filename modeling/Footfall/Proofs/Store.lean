import Mathlib.Data.List.Perm.Basic
import Mathlib.Order.Basic
import Mathlib.Tactic.Tauto
import Footfall.Proofs.Time
import Footfall.Store.Basic

/-!
# Reading the store

A read gives its value exactly if the part of the store works that it reads
(`Store.guarded_of_notMem`, `Store.eq_of_guarded`). The events of a range are the rows of the
project in the range (`Store.eventsBetween_perm`), and those of neighbouring ranges are the rows of
the range that they make up (`Store.eventsBetween_append_perm`). What is read of a project lies in
its own rows: stores that have the same rows of a project (`Store.SameRows`) give the same events,
counts and funnels of it.
-/

namespace Footfall

namespace Store

section Guarded

variable {s : Store} {part : StorePart} {α : Type}

theorem guarded_of_notMem (h : part ∉ s.failing) (value : α) :
    s.guarded part value = .ok value := by
  rw [guarded, if_neg (by simpa using h)]

theorem eq_of_guarded {value result : α} (h : s.guarded part value = .ok result) :
    value = result := by
  rw [guarded] at h
  split_ifs at h
  exact Except.ok.inj h

end Guarded

/-! ## Ranges -/

/-- The rows of a project between two instants, both included, in the order of the table. -/
def rowsBetween (s : Store) (p : String) (start stop : Timestamp) : List Event :=
  s.events.filter fun e => e.projectId = p ∧ start ≤ e.createdAt ∧ e.createdAt ≤ stop

theorem eventsBetween_perm (s : Store) (p : String) (start stop : Timestamp) :
    (s.eventsBetween p start stop).Perm (s.rowsBetween p start stop) := by
  refine (List.mergeSort_perm _ _).trans (List.Perm.of_eq (List.filter_congr fun e _ => ?_))
  rw [Bool.eq_iff_iff]
  simp only [Bool.and_eq_true, beq_iff_eq, decide_eq_true_eq, and_assoc]

/-- If nothing happens between two ranges, their events are the rows from the start of the first to
the end of the second. -/
theorem eventsBetween_append_perm {s : Store} {p : String}
    {start stop start' stop' : Timestamp} (hle : start ≤ stop) (hlt : stop < start')
    (hle' : start' ≤ stop')
    (hnone : ∀ e ∈ s.events, ¬(stop < e.createdAt ∧ e.createdAt < start')) :
    (s.eventsBetween p start stop ++ s.eventsBetween p start' stop').Perm
      (s.rowsBetween p start stop') := by
  -- the rows that are not after the first range are those of the first range
  have hsplit := List.filter_append_perm (fun e : Event => decide (e.createdAt ≤ stop))
    (s.rowsBetween p start stop')
  simp only [rowsBetween, List.filter_filter] at hsplit
  refine ((s.eventsBetween_perm ..).append (s.eventsBetween_perm ..)).trans
    (List.Perm.trans (List.Perm.of_eq ?_) hsplit)
  congr 1 <;> refine List.filter_congr fun e he => ?_
  · have hstop : e.createdAt ≤ stop → e.createdAt ≤ stop' := fun h => h.trans (hlt.le.trans hle')
    rw [Bool.eq_iff_iff]
    simp only [Bool.and_eq_true, decide_eq_true_eq]
    tauto
  · have hafter : start' ≤ e.createdAt ↔ start ≤ e.createdAt ∧ ¬e.createdAt ≤ stop := by
      have hnext := hnone e he
      rw [not_and, not_lt] at hnext
      exact ⟨fun h => ⟨(hle.trans hlt.le).trans h, not_le.2 (hlt.trans_le h)⟩,
        fun h => hnext (not_le.1 h.2)⟩
    rw [Bool.eq_iff_iff]
    simp only [Bool.and_eq_true, Bool.not_eq_true', decide_eq_true_eq, decide_eq_false_iff_not]
    tauto

/-! ## Projects -/

/-- What two stores have in common in which a project is the same: its record, its funnels and its
events, and whether they can be read. -/
structure SameRows (p : String) (s t : Store) : Prop where
  project : s.project? p = t.project? p
  funnels :
    (s.funnels.filter fun f => f.projectId == p) = t.funnels.filter fun f => f.projectId == p
  events : (s.events.filter fun e => e.projectId == p) = t.events.filter fun e => e.projectId == p
  works : StorePart.events ∈ s.failing ↔ StorePart.events ∈ t.failing

namespace SameRows

variable {p : String} {s t : Store} (h : SameRows p s t)

include h

theorem guarded_eq {α : Type} {a b : α} (hab : a = b) :
    s.guarded .events a = t.guarded .events b := by
  simp only [guarded, List.contains_iff_mem, h.works, hab]

/-- The events of a project in a range are among those of the project. -/
theorem eventsBetween_eq (start stop : Timestamp) :
    s.eventsBetween p start stop = t.eventsBetween p start stop := by
  have hown : ∀ u : Store, u.eventsBetween p start stop =
      ((u.events.filter fun e => e.projectId == p).filter fun e =>
        decide (start ≤ e.createdAt) && decide (e.createdAt ≤ stop)).mergeSort earlier := by
    intro u
    rw [eventsBetween, List.filter_filter]
    congr 2
    funext e
    rw [Bool.and_assoc, Bool.and_comm]
  rw [hown, hown, h.events]

theorem select_eq (start stop : Timestamp) : s.select p start stop = t.select p start stop :=
  h.guarded_eq (h.eventsBetween_eq start stop)

theorem groupCount_eq (start stop : Timestamp) (width : Granularity) :
    s.groupCount p start stop width = t.groupCount p start stop width :=
  h.guarded_eq (by rw [h.eventsBetween_eq start stop])

theorem funnel?_eq (id : String) : s.funnel? p id = t.funnel? p id := by
  have hown : ∀ u : Store, (u.funnels.find? fun f => f.id == id && f.projectId == p) =
      (u.funnels.filter fun f => f.projectId == p).find? fun f => f.id == id := by
    intro u
    rw [List.find?_filter]
    congr 1
    funext f
    rw [Bool.decide_and, Bool.decide_coe, Bool.decide_coe, Bool.and_comm]
  refine h.guarded_eq ?_
  rw [hown, hown, h.funnels]

end SameRows

end Store

end Footfall
