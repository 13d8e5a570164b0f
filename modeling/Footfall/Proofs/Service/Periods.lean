import Mathlib.Data.List.Perm.Basic
import Mathlib.Order.Interval.Set.Basic
import Mathlib.Tactic.Ring
import Footfall.Proofs.Revenue.Amount
import Footfall.Proofs.Service.Range
import Footfall.Proofs.Settings
import Footfall.Proofs.Store

/-!
# Periods tile time

The period before a period is as long and ends a microsecond before it starts. Both include their
bounds, so for instants that are whole microseconds since 1970, none of which lies in a leap second,
a period and the one before it leave nothing out and have nothing in common (`Precedes`). In
microseconds a period from `a` to `b` has `b - a + 1` instants, and the period `n` periods before it
is that many times `n` earlier (`earlierPeriod_ofMicros`); an instant lies in the period whose
number is a quotient by that width (`mem_periodBefore_iff`).

The revenue of a range is compared with that of the period before it. Since the two selections have
every row between them once (`Store.eventsBetween_append_perm`), their transactions add up.
`previousPeriod_tiles` puts these together.
-/

namespace Footfall

open Timestamp (ofMicros)

variable {a b us : ℤ} {n : ℕ} {period previous : Timestamp × Timestamp}

/-! ## A period and the one before it -/

/-- A period comes right before another one that is as long: it ends before the other one starts,
and no whole microsecond is between them. -/
structure Precedes (previous period : Timestamp × Timestamp) : Prop where
  le : previous.1 ≤ previous.2
  lt : previous.2 < period.1
  since_eq : previous.1.since previous.2 = period.1.since period.2
  adjacent : ∀ us, ¬(previous.2 < ofMicros us ∧ ofMicros us < period.1)

/-- Two such periods have no instant in common. -/
theorem Precedes.notMem {t : Timestamp} (h : Precedes previous period)
    (ht : t ∈ Set.Icc previous.1 previous.2) : t ∉ Set.Icc period.1 period.2 :=
  fun ht' => absurd (ht'.1.trans ht.2) (not_le.2 h.lt)

/-- The period that is a number of periods before the one from `a` to `b`. -/
def periodBefore (a b : ℤ) (n : ℕ) : Timestamp × Timestamp :=
  (ofMicros (a - n * (b - a + 1)), ofMicros (b - n * (b - a + 1)))

theorem previousPeriod_ofMicros (hab : a ≤ b) (ha : (ofMicros a).representable = true) :
    previousPeriod (ofMicros a) (ofMicros b) =
      if (periodBefore a b 1).1.representable then some (periodBefore a b 1) else none := by
  have hstop : (ofMicros a).shift (-Timestamp.microsecond) = ofMicros (a - 1) := by
    rw [← neg_one_mul, Timestamp.shift_ofMicros, ← sub_eq_add_neg]
  have hstart : (ofMicros (a - 1)).shift (-(ofMicros a).since (ofMicros b)) =
      ofMicros (a - (b - a + 1)) := by
    rw [Timestamp.since_ofMicros, ← neg_mul, Timestamp.shift_ofMicros]
    congr 1
    ring
  rw [previousPeriod_eq, Timestamp.shift?, hstop, periodBefore, Nat.cast_one, one_mul,
    show b - (b - a + 1) = a - 1 by ring]
  by_cases hrep : (ofMicros (a - (b - a + 1))).representable = true
  · have hlast : (ofMicros (a - 1)).representable = true :=
      Timestamp.representable_ofMicros_of_between hrep ha (by omega) (by omega)
    rw [if_pos hlast, if_pos hrep, Option.bind_some, Timestamp.shift?, hstart, if_pos hrep,
      Option.map_some]
  · rw [if_neg hrep]
    split_ifs
    · rw [Option.bind_some, Timestamp.shift?, hstart, if_neg hrep, Option.map_none]
    · rfl

/-- The period before a period from `a` to `b` comes right before it. -/
theorem precedes_periodBefore (hab : a ≤ b) :
    Precedes (periodBefore a b 1) (ofMicros a, ofMicros b) where
  le := Timestamp.ofMicros_le_ofMicros.2 (by omega)
  lt := Timestamp.ofMicros_lt_ofMicros.2 (by omega)
  since_eq := by
    simp only [periodBefore, Timestamp.since_ofMicros]
    congr 1
    ring
  adjacent us := by
    simp only [periodBefore, Timestamp.ofMicros_lt_ofMicros]
    omega

/-! ## Iterated periods -/

/-- The period that is a number of periods before a period, as long as there is one. -/
def earlierPeriod (start stop : Timestamp) : ℕ → Option (Timestamp × Timestamp)
  | 0 => some (start, stop)
  | n + 1 => (earlierPeriod start stop n).bind fun period => previousPeriod period.1 period.2

/-- **Every period before a period from `a` to `b`**, which exists if it starts within the
representable years. -/
theorem earlierPeriod_ofMicros (hab : a ≤ b) (ha : (ofMicros a).representable = true) (n : ℕ) :
    earlierPeriod (ofMicros a) (ofMicros b) n =
      if (periodBefore a b n).1.representable then some (periodBefore a b n) else none := by
  induction n with
  | zero => simp [earlierPeriod, periodBefore, ha]
  | succ n ih =>
    -- the period before the one before which there are `n`
    have hstep : periodBefore (a - n * (b - a + 1)) (b - n * (b - a + 1)) 1 =
        periodBefore a b (n + 1) := by
      simp only [periodBefore, Nat.cast_add, Nat.cast_one]
      congr 2 <;> ring
    rw [earlierPeriod, ih]
    by_cases hrep : (periodBefore a b n).1.representable = true
    · rw [if_pos hrep, Option.bind_some, periodBefore,
        previousPeriod_ofMicros (by omega) hrep, hstep]
    · -- an earlier one starts even earlier
      rw [if_neg hrep, Option.bind_none, if_neg]
      refine mt (fun hnext => ?_) hrep
      refine Timestamp.representable_ofMicros_of_between hnext ha ?_ ?_
      · rw [Nat.cast_succ, add_one_mul]
        omega
      · have hwidth : 0 ≤ (n : ℤ) * (b - a + 1) := Int.mul_nonneg (by omega) (by omega)
        omega

/-- The periods in between exist as well. -/
theorem earlierPeriod_of_le {k : ℕ} (hab : a ≤ b) (ha : (ofMicros a).representable = true)
    (h : earlierPeriod (ofMicros a) (ofMicros b) n = some period) (hk : k ≤ n) :
    earlierPeriod (ofMicros a) (ofMicros b) k = some (periodBefore a b k) := by
  rw [earlierPeriod_ofMicros hab ha] at h ⊢
  split_ifs at h with hrep
  have hle : (k : ℤ) * (b - a + 1) ≤ n * (b - a + 1) :=
    Int.mul_le_mul_of_nonneg_right (by exact_mod_cast hk) (by omega)
  have hnonneg : 0 ≤ (k : ℤ) * (b - a + 1) := Int.mul_nonneg (by omega) (by omega)
  rw [if_pos]
  exact Timestamp.representable_ofMicros_of_between hrep ha (by omega) (by omega)

/-- A whole microsecond lies in the period whose number is the distance to `b` divided by the width
of a period. -/
theorem mem_periodBefore_iff (hab : a ≤ b) :
    ofMicros us ∈ Set.Icc (periodBefore a b n).1 (periodBefore a b n).2 ↔
      (b - us) / (b - a + 1) = n := by
  rw [Set.mem_Icc, periodBefore, Timestamp.ofMicros_le_ofMicros, Timestamp.ofMicros_le_ofMicros,
    Int.ediv_eq_iff_of_pos (by omega)]
  omega

/-- **Iterated periods tile time.** A whole microsecond lies between the start of the earliest of
some periods and the end of the latest exactly if it lies in one of them, and then only in one. -/
theorem mem_iff_existsUnique_earlierPeriod (hab : a ≤ b) (ha : (ofMicros a).representable = true)
    (h : earlierPeriod (ofMicros a) (ofMicros b) n = some period) :
    ofMicros us ∈ Set.Icc period.1 (ofMicros b) ↔
      ∃! k, k ≤ n ∧ ∃ p, earlierPeriod (ofMicros a) (ofMicros b) k = some p ∧
        ofMicros us ∈ Set.Icc p.1 p.2 := by
  have hwidth : 0 < b - a + 1 := by omega
  have hexists : ∀ k ≤ n, earlierPeriod (ofMicros a) (ofMicros b) k = some (periodBefore a b k) :=
    fun k => earlierPeriod_of_le hab ha h
  obtain rfl : period = periodBefore a b n := Option.some.inj (h.symm.trans (hexists n le_rfl))
  have hnonneg : 0 ≤ (b - us) / (b - a + 1) ↔ us ≤ b := by
    rw [Int.ediv_nonneg_iff_of_pos hwidth, sub_nonneg]
  have hbound : (b - us) / (b - a + 1) ≤ n ↔ a - n * (b - a + 1) ≤ us := by
    rw [← Int.lt_add_one_iff, Int.ediv_lt_iff_lt_mul hwidth, add_one_mul]
    omega
  rw [Set.mem_Icc, periodBefore, Timestamp.ofMicros_le_ofMicros, Timestamp.ofMicros_le_ofMicros,
    ← hbound, ← hnonneg]
  constructor
  · rintro ⟨hle, hge⟩
    obtain ⟨k, hk⟩ := Int.eq_ofNat_of_zero_le hge
    have hkn : k ≤ n := by omega
    refine ⟨k, ⟨hkn, _, hexists k hkn, (mem_periodBefore_iff hab).2 hk⟩, ?_⟩
    rintro l ⟨hl, p, hp, hmem⟩
    cases (hexists l hl).symm.trans hp
    exact Int.ofNat_inj.1 (((mem_periodBefore_iff hab).1 hmem).symm.trans hk)
  · rintro ⟨k, ⟨hk, p, hp, hmem⟩, -⟩
    cases (hexists k hk).symm.trans hp
    rw [(mem_periodBefore_iff hab).1 hmem]
    omega

/-! ## The revenue of a period -/

namespace Revenue

theorem transactions_metrics (xs : List Event) :
    (metrics xs).transactions = (xs.filterMap Event.revenue?).length := rfl

theorem transactions_of_perm {xs ys : List Event} (h : xs.Perm ys) :
    (metrics xs).transactions = (metrics ys).transactions :=
  (h.filterMap Event.revenue?).length_eq

theorem transactions_append (xs ys : List Event) :
    (metrics (xs ++ ys)).transactions = (metrics xs).transactions + (metrics ys).transactions := by
  simp only [transactions_metrics, List.filterMap_append, List.length_append]

end Revenue

namespace Service

/-- What the revenue of a period and of the one before it is made of: the rows of the project from
the start of one to the end of the other, each in one of the two selections. -/
structure Splits (s : Service) (project : String) (previous period : Timestamp × Timestamp)
    (summary : Revenue.Summary) : Prop where
  revenue_eq : s.revenue project period = .ok summary
  current_eq : summary.current =
    Revenue.metrics (s.store.eventsBetween project period.1 period.2)
  previous_eq : summary.previous =
    Revenue.metrics (s.store.eventsBetween project previous.1 previous.2)
  perm : (s.store.eventsBetween project previous.1 previous.2 ++
    s.store.eventsBetween project period.1 period.2).Perm
      (s.store.rowsBetween project previous.1 period.2)
  transactions : summary.current.transactions + summary.previous.transactions =
    (Revenue.metrics (s.store.rowsBetween project previous.1 period.2)).transactions

variable {s : Service}

theorem revenue_eq (hworks : StorePart.events ∉ s.store.failing) (project : String)
    (h : previousPeriod period.1 period.2 = some previous) :
    s.revenue project period = .ok (Revenue.summarize
      (s.store.eventsBetween project period.1 period.2)
      (s.store.eventsBetween project previous.1 previous.2)) := by
  simp only [revenue, eventsIn, Store.select, Store.guarded_of_notMem hworks, Setback.ofStore, h,
    Setback.ofArithmetic]
  rfl

theorem splits_of_precedes (hworks : StorePart.events ∉ s.store.failing)
    (hmicros : ∀ e ∈ s.store.events, ∃ us, e.createdAt = ofMicros us) (project : String)
    (h : previousPeriod period.1 period.2 = some previous) (hprecedes : Precedes previous period)
    (hle : period.1 ≤ period.2) :
    ∃ summary, s.Splits project previous period summary := by
  have hperm := Store.eventsBetween_append_perm (p := project) hprecedes.le hprecedes.lt hle
    fun e he => by
      obtain ⟨us, hus⟩ := hmicros e he
      exact hus ▸ hprecedes.adjacent us
  refine ⟨_, revenue_eq hworks project h, rfl, rfl, hperm, ?_⟩
  rw [← Revenue.transactions_of_perm hperm, Revenue.transactions_append]
  exact Nat.add_comm ..

end Service

/-- **Previous periods tile time.** Let a period start and end with a whole microsecond.

* The period that is `n` periods before it exists exactly if its start is representable.
* The period before it is as long and comes right before it, with no instant in common.
* As far as they exist, the periods before it cover the time up to its end, and every microsecond
  lies in exactly one of them.
* The revenue of the period is that of two selections, of its own events and of those of the period
  before it. Together they have every row of the project from the start of the one to the end of the
  other once, and their transactions add up to those of these rows. -/
theorem previousPeriod_tiles (hab : a ≤ b) (ha : (ofMicros a).representable = true) :
    (∀ n : ℕ, (earlierPeriod (ofMicros a) (ofMicros b) n).isSome = true ↔
      (ofMicros (a - n * (b - a + 1))).representable = true) ∧
    (∀ previous, previousPeriod (ofMicros a) (ofMicros b) = some previous →
      Precedes previous (ofMicros a, ofMicros b) ∧
        ∀ t ∈ Set.Icc previous.1 previous.2, t ∉ Set.Icc (ofMicros a) (ofMicros b)) ∧
    (∀ n period, earlierPeriod (ofMicros a) (ofMicros b) n = some period →
      ∀ us, ofMicros us ∈ Set.Icc period.1 (ofMicros b) ↔
        ∃! k, k ≤ n ∧ ∃ p, earlierPeriod (ofMicros a) (ofMicros b) k = some p ∧
          ofMicros us ∈ Set.Icc p.1 p.2) ∧
    ∀ (s : Service) (project : String) (previous : Timestamp × Timestamp),
      StorePart.events ∉ s.store.failing →
      (∀ e ∈ s.store.events, ∃ us, e.createdAt = ofMicros us) →
      previousPeriod (ofMicros a) (ofMicros b) = some previous →
        ∃ summary, s.Splits project previous (ofMicros a, ofMicros b) summary := by
  have hprecedes : ∀ previous, previousPeriod (ofMicros a) (ofMicros b) = some previous →
      Precedes previous (ofMicros a, ofMicros b) := by
    intro previous h
    rw [previousPeriod_ofMicros hab ha] at h
    split_ifs at h
    cases h
    exact precedes_periodBefore hab
  refine ⟨fun n => ?_, fun previous h => ⟨hprecedes previous h, fun t ht => ?_⟩,
    fun n period h us => ?_, ?_⟩
  · rw [earlierPeriod_ofMicros hab ha]
    split_ifs with hrep <;> simpa [periodBefore] using hrep
  · exact (hprecedes previous h).notMem ht
  · exact mem_iff_existsUnique_earlierPeriod hab ha h
  · intro s project previous hworks hmicros h
    exact Service.splits_of_precedes hworks hmicros project h (hprecedes previous h)
      (Timestamp.ofMicros_le_ofMicros.2 hab)

/-- A week of March 2026 with an order for 5 in its first microsecond and one in the last of the
week before. The revenue of either week has one transaction. -/
theorem previousPeriod_tiles_march :
    ∃ (start stop : Timestamp) (previous second : Timestamp × Timestamp) (s : Service),
      Timestamp.parse "2026-03-08T00:00:00Z" = some start ∧
      Timestamp.parse "2026-03-14T23:59:59Z" = some stop ∧
      (s.store.events.map Event.createdAt = [start, previous.2]) ∧
      (∀ e ∈ s.store.events,
        e.properties = some (Json.compactText (.object [("revenue", .int 5)]))) ∧
      previousPeriod start stop = some previous ∧ Precedes previous (start, stop) ∧
      earlierPeriod start stop 2 = some second ∧
      (∃! k, k ≤ 2 ∧ ∃ p, earlierPeriod start stop k = some p ∧ previous.2 ∈ Set.Icc p.1 p.2) ∧
      ∃ summary, s.Splits "shop" previous (start, stop) summary ∧
        summary.current.transactions = 1 ∧ summary.previous.transactions = 1 := by
  let order (us : ℤ) : Event :=
    { Event.bare "shop" .custom "/cart" "session" "visitor" (ofMicros us) with
      properties := some (Json.compactText (.object [("revenue", .int 5)])) }
  let store : Store := { events := [order 1772928000000000, order 1772927999999999] }
  obtain ⟨s, -, hs⟩ : ∃ s, Service.withQueue (Settings.ofSalt "0123456789abcdef0123456789abcdef")
      Locator.blind (fun _ => none) store 8 = .ok s ∧ s.store = store := ⟨_, rfl, rfl⟩
  have horders : ∀ e ∈ s.store.events, ∃ us, e = order us := by
    rw [hs]
    exact List.forall_mem_cons.2 ⟨⟨_, rfl⟩, List.forall_mem_singleton.2 ⟨_, rfl⟩⟩
  have hexact : (Json.Value.object [("revenue", .int 5)]).Exact Json.maxDepth :=
    .object (List.pairwise_singleton _ _)
      (List.forall_mem_singleton.2 (.int (by decide) (by decide)))
  have hamount : ∀ us, (order us).revenue? = some (Float.ofInt 5) := fun us =>
    (Event.revenue?_eq_some_iff rfl rfl (Json.parse_compactText hexact) hexact).2
      ⟨_, 5, rfl, List.mem_singleton_self _, rfl⟩
  obtain ⟨-, hprecedes, htile, hsplits⟩ :=
    previousPeriod_tiles (a := 1772928000000000) (b := 1773532799000000) (by decide)
      (by decide +kernel)
  have hprevious : previousPeriod (ofMicros 1772928000000000) (ofMicros 1773532799000000) =
      some (ofMicros 1772323200999999, ofMicros 1772927999999999) := by decide +kernel
  have hsecond : earlierPeriod (ofMicros 1772928000000000) (ofMicros 1773532799000000) 2 =
      some (ofMicros 1771718401999998, ofMicros 1772323200999998) := by decide +kernel
  have hmicros : ∀ e ∈ s.store.events, ∃ us, e.createdAt = ofMicros us := by
    intro e he
    obtain ⟨us, rfl⟩ := horders e he
    exact ⟨us, rfl⟩
  obtain ⟨summary, hsummary⟩ := hsplits s "shop" _ (by rw [hs]; decide) hmicros hprevious
  -- either selection is one order
  have hone : ∀ (us : ℤ) (range : Timestamp × Timestamp),
      s.store.rowsBetween "shop" range.1 range.2 = [order us] →
        (Revenue.metrics (s.store.eventsBetween "shop" range.1 range.2)).transactions = 1 := by
    intro us range hrows
    rw [Revenue.transactions_of_perm (s.store.eventsBetween_perm ..), hrows,
      Revenue.transactions_metrics, List.filterMap_cons_some (hamount us)]
    rfl
  refine ⟨ofMicros 1772928000000000, ofMicros 1773532799000000, _, _, s, by decide +kernel,
    by decide +kernel, by rw [hs]; rfl, ?_, hprevious, (hprecedes _ hprevious).1, hsecond,
    (htile _ _ hsecond 1772927999999999).1 (by decide +kernel), summary, hsummary, ?_, ?_⟩
  · intro e he
    obtain ⟨us, rfl⟩ := horders e he
    rfl
  · rw [hsummary.current_eq]
    refine hone 1772928000000000 _ ?_
    simp [hs, store, order, Store.rowsBetween, Event.bare, Timestamp.ofMicros_le_ofMicros]
  · rw [hsummary.previous_eq]
    refine hone 1772927999999999 _ ?_
    simp [hs, store, order, Store.rowsBetween, Event.bare, Timestamp.ofMicros_le_ofMicros]

end Footfall
