import Mathlib.Data.List.TakeWhile
import Footfall.Proofs.Except
import Footfall.Proofs.Time.Shift
import Footfall.Service.Figures

/-!
# The range of a figure

A query may give the start and the end of a range, anywhere in the representable years
(`TimeRange.isHandled_of_read`). From them the default start is reckoned, seven days before the end,
and for the revenue of a range the period of equal length before it. Neither is checked, so at the
beginning of the representable years they may not exist, and then the request is given up.

* `isSome_previousPeriod_iff` says when the period before a period exists.
* `TimeRange.resolve_eq` says what comes of a query: it is given up if there is no instant seven
  days before the end, even when the start is given; otherwise it is the range, or it is refused
  because it ends before it starts.

`TimeRange.resolve_gives_up_iff` puts these together.
-/

namespace Footfall

/-! ## Instants of a query -/

namespace Timestamp

theorem foldl_digits_lt (ds : List Char) (h : ∀ c ∈ ds, c.isDigit = true) (n : ℕ) :
    ds.foldl (fun n c => n * 10 + (c.toNat - 48)) n < (n + 1) * 10 ^ ds.length := by
  induction ds generalizing n with
  | nil => simp
  | cons c r ih =>
    have hc : c.toNat ≤ 57 := by
      have hdigit := h c List.mem_cons_self
      simp only [Char.isDigit, Bool.and_eq_true, decide_eq_true_eq] at hdigit
      exact hdigit.2
    calc (c :: r).foldl (fun n c => n * 10 + (c.toNat - 48)) n
        < (n * 10 + (c.toNat - 48) + 1) * 10 ^ r.length :=
          ih (fun d hd => h d (List.mem_cons_of_mem c hd)) _
      _ ≤ ((n + 1) * 10) * 10 ^ r.length := Nat.mul_le_mul_right _ (by omega)
      _ = (n + 1) * 10 ^ (c :: r).length := by rw [List.length_cons, pow_succ', mul_assoc]

/-- A fraction that is read is less than a second. -/
theorem scanFraction_lt {cs rest : List Char} {n : ℕ} (h : scanFraction cs = some (n, rest)) :
    n < 1000000000 := by
  unfold scanFraction at h
  split at h
  · next r =>
    dsimp only at h
    split_ifs at h
    obtain ⟨rfl, -⟩ := Prod.mk.inj (Option.some.inj h)
    have hlength : ((r.take 9).takeWhile Char.isDigit).length ≤ 9 :=
      (List.takeWhile_prefix _).length_le.trans (List.length_take_le 9 r)
    have hdigits := foldl_digits_lt ((r.take 9).takeWhile Char.isDigit)
      (fun c hc => List.mem_takeWhile_imp hc) 0
    calc _ < (0 + 1) * 10 ^ ((r.take 9).takeWhile Char.isDigit).length *
          10 ^ (9 - ((r.take 9).takeWhile Char.isDigit).length) :=
          Nat.mul_lt_mul_of_pos_right hdigits (Nat.pow_pos (by decide))
      _ = 10 ^ 9 := by rw [zero_add, one_mul, ← pow_add, Nat.add_sub_cancel' hlength]
  · obtain ⟨rfl, -⟩ := Prod.mk.inj (Option.some.inj h)
    decide

/-- The instants that requests may carry can be handled. -/
theorem isInstant_of_parse {s : String} {t : Timestamp} (h : parse s = some t) : t.IsInstant := by
  simp only [parse, Option.bind_eq_bind, Option.bind_eq_some_iff, Prod.exists] at h
  obtain ⟨_, _, _, _, -, _, -, clock, leap, _, hclock, fraction, _, hfraction, offset, _, -, date,
    -, h⟩ := h
  split_ifs at h with hall
  cases h
  have hlt := scanFraction_lt hfraction
  have hleap : leap ≤ 1000000000 := by
    simp only [scanClock, Option.bind_eq_bind, Option.bind_eq_some_iff, Prod.exists] at hclock
    obtain ⟨_, _, -, _, -, _, _, -, _, -, second, _, -, hclock⟩ := hclock
    split_ifs at hclock <;> cases hclock <;> decide
  exact ⟨hall.2.2, by dsimp only; omega⟩

end Timestamp

/-- Start and end of a range are instants that can be handled. -/
structure TimeRange.IsHandled (r : TimeRange) : Prop where
  start : ∀ t ∈ r.start, t.IsInstant
  stop : ∀ t ∈ r.stop, t.IsInstant

theorem Http.Parameters.isInstant_of_instant {ps : Http.Parameters} {name : String}
    {given : Option Timestamp} (h : ps.instant name = .ok given) : ∀ t ∈ given, t.IsInstant := by
  intro t ht
  unfold instant at h
  split at h
  · cases h
    cases ht
  · split at h
    · next hparse =>
      cases h
      cases ht
      exact Timestamp.isInstant_of_parse hparse
    · cases h
  · cases h

/-- Whatever the query, its range can be handled. -/
theorem TimeRange.isHandled_of_read {ps : Http.Parameters} {r : TimeRange}
    (h : TimeRange.read ps = .ok r) : r.IsHandled := by
  simp only [TimeRange.read, bind_eq_ok_iff] at h
  obtain ⟨start, hstart, stop, hstop, h⟩ := h
  cases h
  exact ⟨Http.Parameters.isInstant_of_instant hstart, Http.Parameters.isInstant_of_instant hstop⟩

/-! ## The period before -/

variable {start stop now : Timestamp}

theorem previousPeriod_eq (start stop : Timestamp) : previousPeriod start stop =
    (start.shift? (-Timestamp.microsecond)).bind fun last =>
      (last.shift? (-start.since stop)).map fun first => (first, last) := by
  rw [previousPeriod]
  cases start.shift? (-Timestamp.microsecond) with
  | none => rfl
  | some last =>
    simp only [Option.bind_eq_bind, Option.bind_some]
    cases last.shift? (-start.since stop) <;> rfl

/-- **The period before a period exists exactly if it does not begin before the first instant.** -/
theorem isSome_previousPeriod_iff (hstart : start.IsInstant) (hstop : stop.IsInstant)
    (hle : start ≤ stop) : (previousPeriod start stop).isSome = true ↔
      Timestamp.earliest.nanos ≤ start.nanos - Timestamp.microsecond - start.since stop := by
  have hmicro : -Timestamp.microsecond ≤ 0 := by decide
  have hlast := Timestamp.isSome_shift?_iff hstart hmicro
  rw [previousPeriod_eq]
  rcases le_or_gt 0 (start.since stop) with hnonneg | hneg
  · cases hshift : start.shift? (-Timestamp.microsecond) with
    | none =>
      rw [hshift, Option.isSome_none] at hlast
      simp only [Option.bind_none, Option.isSome_none, Bool.false_eq_true, false_iff] at hlast ⊢
      omega
    | some last =>
      obtain ⟨hinstant, rfl⟩ := Timestamp.isInstant_of_shift? hshift
      rw [Option.bind_some, Option.isSome_map, Timestamp.isSome_shift?_iff hinstant (by omega),
        Timestamp.nanos_shift hmicro]
      rfl
  · -- the period ends right after the leap second that it begins in
    obtain ⟨hleap, hnext, hsecond⟩ :=
      Timestamp.of_since_neg hstart.fraction_lt hstop.fraction_lt hle hneg
    have hearly := Timestamp.earliest_le_of_isLeap hstart.representable hleap
    obtain ⟨last, hshift⟩ := Option.isSome_iff_exists.1 (hlast.2 hearly)
    obtain ⟨hinstant, rfl⟩ := Timestamp.isInstant_of_shift? hshift
    have hbefore := (Timestamp.le_iff.1 (Timestamp.shift_le hstart hmicro)).imp_right (·.1)
    obtain ⟨hge, hle⟩ := Timestamp.seconds_shift hinstant (by omega : 0 < -start.since stop)
      (by omega)
    have hfirst := Timestamp.representable_of_seconds hinstant.representable hstop.representable
      hge (by omega)
    rw [hshift, Option.bind_some, Option.isSome_map, Timestamp.shift?, if_pos hfirst]
    simp only [Option.isSome_some, true_iff]
    omega

/-! ## The range of a query -/

namespace TimeRange

variable {r : TimeRange}

/-- The instant at which a range begins for which no start is given, if there is one. -/
def defaultStart? (stop : Timestamp) : Option Timestamp :=
  stop.shift? (-(defaultRangeDays * Timestamp.oneDay))

/-- What comes of a query. -/
theorem resolve_eq (r : TimeRange) (now : Timestamp) : r.resolve now =
    match defaultStart? (r.stop.getD now) with
    | none => .error .outOfRange
    | some first =>
      if r.stop.getD now < r.start.getD first then
        .error (.refused (.badRequest "start must not be after end"))
      else .ok (r.start.getD first, r.stop.getD now) := by
  rw [resolve, ← defaultStart?]
  cases defaultStart? (r.stop.getD now) <;> rfl

theorem IsHandled.isInstant_stop (hr : r.IsHandled) (hnow : now.IsInstant) :
    (r.stop.getD now).IsInstant := by
  cases hstop : r.stop with
  | none => exact hnow
  | some stop => exact hr.stop stop hstop

theorem isSome_defaultStart?_iff (h : stop.IsInstant) : (defaultStart? stop).isSome = true ↔
    Timestamp.earliest.nanos + 7 * Timestamp.oneDay ≤ stop.nanos := by
  rw [defaultStart?, Timestamp.isSome_shift?_iff h (by decide), defaultRangeDays]
  omega

/-- The range that a query asks for at an instant: it ends where the query says, or now, and starts
where the query says, or seven days before the end. -/
structure Asks (r : TimeRange) (now start stop : Timestamp) : Prop where
  stop_eq : stop = r.stop.getD now
  start_eq : ∀ t ∈ r.start, start = t
  default : r.start = none → start.nanos = stop.nanos - 7 * Timestamp.oneDay
  isInstant_start : start.IsInstant
  isInstant_stop : stop.IsInstant
  le : start ≤ stop

theorem asks_of_resolve (hr : r.IsHandled) (hnow : now.IsInstant)
    (h : r.resolve now = .ok (start, stop)) : r.Asks now start stop := by
  have hstop := hr.isInstant_stop hnow
  rw [resolve_eq] at h
  cases hdefault : defaultStart? (r.stop.getD now) with
  | none =>
    rw [hdefault] at h
    cases h
  | some first =>
    obtain ⟨hfirst, hshift⟩ := Timestamp.isInstant_of_shift? hdefault
    simp only [hdefault] at h
    split_ifs at h with hlt
    obtain ⟨rfl, rfl⟩ := Prod.mk.inj (Except.ok.inj h)
    refine ⟨rfl, fun t ht => by rw [ht, Option.getD_some], fun hnone => ?_, ?_, hstop, not_lt.1 hlt⟩
    · rw [hnone, Option.getD_none, hshift, Timestamp.nanos_shift (by decide), defaultRangeDays]
      rfl
    · cases hstart : r.start with
      | none => exact hfirst
      | some t => exact hr.start t hstart

/-- A query is given up exactly if there is no instant seven days before its end. -/
theorem resolve_eq_outOfRange_iff (hr : r.IsHandled) (hnow : now.IsInstant) :
    r.resolve now = .error .outOfRange ↔
      (r.stop.getD now).nanos < Timestamp.earliest.nanos + 7 * Timestamp.oneDay := by
  rw [← not_le, ← isSome_defaultStart?_iff (hr.isInstant_stop hnow), resolve_eq]
  cases defaultStart? (r.stop.getD now) with
  | none => simp
  | some first =>
    dsimp only
    split_ifs <;> simp

/-- What is not given up is the range, or it is refused because it ends before it starts. -/
theorem resolve_cases (hr : r.IsHandled) (hnow : now.IsInstant)
    (h : r.resolve now ≠ .error .outOfRange) :
    (∃ start stop, r.resolve now = .ok (start, stop)) ∨
      r.resolve now = .error (.refused (.badRequest "start must not be after end")) ∧
        ∃ start ∈ r.start, r.stop.getD now < start := by
  rw [resolve_eq] at h ⊢
  cases hdefault : defaultStart? (r.stop.getD now) with
  | none => simp [hdefault] at h
  | some first =>
    dsimp only
    split_ifs with hlt
    · refine Or.inr ⟨rfl, ?_⟩
      cases hstart : r.start with
      | none =>
        -- the default start is not after the end
        have hle : first ≤ r.stop.getD now := (Timestamp.isInstant_of_shift? hdefault).2 ▸
          Timestamp.shift_le (hr.isInstant_stop hnow) (by decide)
        rw [hstart] at hlt
        exact absurd hlt (not_lt.2 hle)
      | some t =>
        rw [hstart] at hlt
        exact ⟨t, rfl, hlt⟩
    · exact Or.inl ⟨_, _, rfl⟩

theorem first_day_year_one : (Date.ofCivil 1 1 1).day = -719162 := by decide

theorem day_stop (hnow : now.IsCurrent)
    (hyear : ∀ t ∈ r.stop, (Date.ofCivil 1 1 1).day ≤ t.date.day) :
    (Date.ofCivil 1 1 1).day ≤ (r.stop.getD now).date.day := by
  cases hstop : r.stop with
  | none => exact le_trans (by decide) hnow.since_1970
  | some t => exact hyear t hstop

/-- A query that does not end before the year 1 is not given up. -/
theorem resolve_ne_outOfRange (hr : r.IsHandled) (hnow : now.IsCurrent)
    (hyear : ∀ t ∈ r.stop, (Date.ofCivil 1 1 1).day ≤ t.date.day) :
    r.resolve now ≠ .error .outOfRange := by
  have hstop := Timestamp.mul_oneDay_le_nanos (day_stop hnow hyear)
  rw [ne_eq, resolve_eq_outOfRange_iff hr hnow.isInstant, not_lt, Timestamp.nanos_earliest,
    Date.first_day]
  rw [first_day_year_one] at hstop
  simp only [Timestamp.oneDay, Timestamp.second] at *
  omega

/-- Before a range that starts and ends in the year 1 or later there is room for another one. -/
theorem Asks.isSome_previousPeriod (h : r.Asks now start stop) (hnow : now.IsCurrent)
    (hyear : ∀ t, t ∈ r.start ∨ t ∈ r.stop → (Date.ofCivil 1 1 1).day ≤ t.date.day) :
    (previousPeriod start stop).isSome = true := by
  have hsince := Timestamp.since_le start stop
  have hlast := h.isInstant_stop.nanos_lt
  have hstop := Timestamp.mul_oneDay_le_nanos (day_stop hnow fun t ht => hyear t (Or.inr ht))
  rw [← h.stop_eq, first_day_year_one] at hstop
  rw [isSome_previousPeriod_iff h.isInstant_start h.isInstant_stop h.le, Timestamp.nanos_earliest,
    Date.first_day]
  cases hstart : r.start with
  | none =>
    have hdefault := h.default hstart
    simp only [Timestamp.oneDay, Timestamp.second, Timestamp.microsecond] at *
    omega
  | some t =>
    obtain rfl := h.start_eq t hstart
    have hfirst := Timestamp.mul_oneDay_le_nanos (hyear start (Or.inl hstart))
    rw [first_day_year_one] at hfirst
    rw [Date.last_day] at hlast
    simp only [Timestamp.oneDay, Timestamp.second, Timestamp.microsecond] at *
    omega

/-- **When the date arithmetic of a range leaves the representable years.** A query is given up
exactly if it gives an end within the first seven days, also if it gives the start. Any other query
is answered with the range that it asks for, or is refused because its start is after its end; and
for a range that is returned the period before it is missing exactly if that would begin before the
first instant. Nothing of this happens to a query whose instants are in the year 1 or later. -/
theorem resolve_gives_up_iff (hr : r.IsHandled) (hnow : now.IsCurrent) :
    (r.resolve now = .error .outOfRange ↔
      ∃ stop ∈ r.stop, stop.nanos < Timestamp.earliest.nanos + 7 * Timestamp.oneDay) ∧
    (r.resolve now ≠ .error .outOfRange →
      (∃ start stop, r.resolve now = .ok (start, stop)) ∨
        r.resolve now = .error (.refused (.badRequest "start must not be after end")) ∧
          ∃ start ∈ r.start, r.stop.getD now < start) ∧
    (∀ start stop, r.resolve now = .ok (start, stop) → r.Asks now start stop ∧
      (previousPeriod start stop = none ↔
        start.nanos - Timestamp.microsecond - start.since stop < Timestamp.earliest.nanos)) ∧
    ((∀ t, t ∈ r.start ∨ t ∈ r.stop → (Date.ofCivil 1 1 1).day ≤ t.date.day) →
      r.resolve now ≠ .error .outOfRange ∧
        ∀ start stop, r.resolve now = .ok (start, stop) →
          (previousPeriod start stop).isSome = true) := by
  have hinstant := hnow.isInstant
  refine ⟨?_, resolve_cases hr hinstant, fun start stop h => ?_, fun hyear => ⟨?_, ?_⟩⟩
  · cases hstop : r.stop with
    | none =>
      -- seven days before now there is an instant
      simp [resolve_ne_outOfRange hr hnow (by simp [hstop])]
    | some stop => simp [resolve_eq_outOfRange_iff hr hinstant, hstop]
  · have hasks := asks_of_resolve hr hinstant h
    refine ⟨hasks, ?_⟩
    rw [← not_le, ← isSome_previousPeriod_iff hasks.isInstant_start hasks.isInstant_stop hasks.le,
      Option.not_isSome_iff_eq_none]
  · exact resolve_ne_outOfRange hr hnow fun t ht => hyear t (Or.inr ht)
  · exact fun start stop h => (asks_of_resolve hr hinstant h).isSome_previousPeriod hnow hyear

/-- The second week of March 2026, asked for on its last evening. -/
theorem resolve_gives_up_iff_march :
    ∃ start stop : Timestamp, Timestamp.parse "2026-03-08T00:00:00Z" = some start ∧
      Timestamp.parse "2026-03-14T23:59:59Z" = some stop ∧
      IsHandled ⟨some start, some stop⟩ ∧ stop.IsCurrent ∧
      resolve ⟨some start, some stop⟩ stop = .ok (start, stop) ∧
      Asks ⟨some start, some stop⟩ stop start stop ∧
      (previousPeriod start stop).isSome = true := by
  have hstart : Timestamp.parse "2026-03-08T00:00:00Z" = some ⟨1772928000, 0⟩ := by decide +kernel
  have hstop : Timestamp.parse "2026-03-14T23:59:59Z" = some ⟨1773532799, 0⟩ := by decide +kernel
  have hhandled : IsHandled ⟨some ⟨1772928000, 0⟩, some ⟨1773532799, 0⟩⟩ :=
    ⟨fun t ht => Timestamp.isInstant_of_parse (hstart.trans ht),
      fun t ht => Timestamp.isInstant_of_parse (hstop.trans ht)⟩
  have hcurrent : Timestamp.IsCurrent ⟨1773532799, 0⟩ := by constructor <;> decide +kernel
  have hresolve : resolve ⟨some ⟨1772928000, 0⟩, some ⟨1773532799, 0⟩⟩ ⟨1773532799, 0⟩ =
      .ok (⟨1772928000, 0⟩, ⟨1773532799, 0⟩) := by decide +kernel
  obtain ⟨-, -, hasks, hyear⟩ := resolve_gives_up_iff hhandled hcurrent
  refine ⟨_, _, hstart, hstop, hhandled, hcurrent, hresolve, (hasks _ _ hresolve).1,
    (hyear ?_).2 _ _ hresolve⟩
  rintro t (ht | ht) <;> cases ht <;> decide +kernel

/-- The first day there is cannot be asked for, although it does not end before it starts; and the
first week can, but not with the week before it. -/
theorem resolve_gives_up_first_days :
    ∃ first second eighth : Timestamp,
      Timestamp.parse "-262143-01-01T00:00:00Z" = some first ∧
      Timestamp.parse "-262143-01-02T00:00:00Z" = some second ∧
      Timestamp.parse "-262143-01-08T00:00:00Z" = some eighth ∧
      first ≤ second ∧
      (∀ now, resolve ⟨some first, some second⟩ now = .error .outOfRange) ∧
      (∀ now, resolve ⟨some first, some eighth⟩ now = .ok (first, eighth)) ∧
      previousPeriod first eighth = none := by
  refine ⟨⟨-8334601228800, 0⟩, ⟨-8334601142400, 0⟩, ⟨-8334600624000, 0⟩, ?_, ?_, ?_, ?_,
    fun now => ?_, fun now => ?_, ?_⟩
  case refine_5 | refine_6 =>
    -- the end is given, so it does not matter what time it is
    simp only [resolve_eq, Option.getD_some]
    decide +kernel
  all_goals decide +kernel

end TimeRange

end Footfall
