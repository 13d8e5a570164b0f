import Mathlib.Algebra.BigOperators.Group.List.Basic
import Footfall.Proofs.Ranking
import Footfall.Proofs.Scalar
import Footfall.Proofs.Time.Shift
import Footfall.Series
import Footfall.Store.Basic

/-!
# The calendar covers its range

The window of the calendar is computed twice: as two instants, between which page views are counted
(`calendarRange`), and as the dates of the rows that show the counts (`calendar`). The two are the
same days.

* Between two days that can be handled every day can be (`Date.representable_of_between`), so if the
  first day and tomorrow can, there are all 365 rows (`calendar_eq`) and both ends of the range
  (`calendarRange_eq`).
* An instant is in the range exactly if its day is one of the calendar (`inCalendar_iff`). So what
  the store counts in the range is what the calendar can show (`countsFor_eventsBetween`).
* Every count is found at its date and nowhere else (`filterMap_countOf_perm`), so the rows add up
  to the counts (`showsCounts_rows`).
* In exact numbers the level of a row says in which quarter of the largest number of visits it is
  (`intensity_rat`, `hasLevels_rows`).

`calendar_isCalendar` puts these together.
-/

namespace Footfall

variable {today : Date} {counts : List GroupCount}

/-! ## Days -/

/-- The dates of the calendar that ends on a day, the oldest first. -/
def calendarDates (today : Date) : List Date :=
  (List.range calendarDays).map fun i : ℕ => ⟨today.day - 364 + i⟩

theorem mem_calendarDates {d : Date} :
    d ∈ calendarDates today ↔ today.day - 364 ≤ d.day ∧ d.day ≤ today.day := by
  simp only [calendarDates, calendarDays, List.mem_map, List.mem_range]
  constructor
  · rintro ⟨i, hi, rfl⟩
    dsimp only
    omega
  · rintro ⟨hfirst, hlast⟩
    refine ⟨(d.day - (today.day - 364)).toNat, by omega, ?_⟩
    obtain ⟨day⟩ := d
    simp only [Date.mk.injEq] at *
    omega

theorem nodup_calendarDates (today : Date) : (calendarDates today).Nodup := by
  refine List.Nodup.map (fun i j hij => ?_) List.nodup_range
  simp only [Date.mk.injEq] at hij
  omega

/-! ## The range -/

/-- The instant lies in the range of the calendar that ends on a day, both ends included. -/
def InCalendar (today : Date) (t : Timestamp) : Prop :=
  ∃ range ∈ calendarRange today, range.1 ≤ t ∧ t ≤ range.2

section Range

variable (hfirst : (today.shift? (-364)).isSome = true) (hnext : (today.shift? 1).isSome = true)

include hfirst hnext

theorem representable_today : today.representable = true :=
  Date.representable_of_between (Date.isSome_shift?.1 hfirst) (Date.isSome_shift?.1 hnext)
    (by dsimp only; omega) (by dsimp only; omega)

/-- The range ends in the last microsecond of the day. -/
theorem calendarRange_eq : calendarRange today =
    some (⟨(today.day - 364) * 86400, 0⟩, ⟨today.day * 86400 + 86399, 999999000⟩) := by
  have hstop : (Timestamp.ofDate ⟨today.day + 1⟩).shift (-Timestamp.microsecond) =
      ⟨today.day * 86400 + 86399, 999999000⟩ := by
    simp only [Timestamp.shift, Timestamp.isLeap, Timestamp.ofDate, Timestamp.ofNanos,
      Timestamp.nanos, Timestamp.second, Timestamp.microsecond]
    simp only [Nat.cast_zero, Int.reduceLE, decide_false, Bool.false_eq_true, if_false,
      Timestamp.mk.injEq]
    omega
  have hday : (⟨today.day * 86400 + 86399, 999999000⟩ : Timestamp).date = today := by
    obtain ⟨day⟩ := today
    simp only [Timestamp.date, Date.mk.injEq]
    omega
  have hlast : (Timestamp.ofDate ⟨today.day + 1⟩).shift? (-Timestamp.microsecond) =
      some ⟨today.day * 86400 + 86399, 999999000⟩ := by
    rw [Timestamp.shift?, hstop, if_pos]
    rw [Timestamp.representable, hday]
    exact representable_today hfirst hnext
  have hdays : -((calendarDays - 1 : ℕ) : ℤ) = -364 := rfl
  rw [calendarRange, hdays, Date.shift?_of_representable (Date.isSome_shift?.1 hfirst),
    Date.shift?_of_representable (Date.isSome_shift?.1 hnext)]
  simp only [Option.bind_eq_bind, Option.bind_some, hlast]
  rfl

/-- **An instant is in the range exactly if its day is a day of the calendar.** -/
theorem inCalendar_iff (us : ℤ) : InCalendar today (Timestamp.ofMicros us) ↔
    (Timestamp.ofMicros us).date ∈ calendarDates today := by
  rw [mem_calendarDates, InCalendar, calendarRange_eq hfirst hnext]
  simp only [Option.mem_def, Option.some.injEq, exists_eq_left', Timestamp.le_iff,
    Timestamp.date, Timestamp.ofMicros, Timestamp.ofNanos, Timestamp.second,
    Timestamp.microsecond]
  omega

theorem inCalendar_ofDate_iff {d : Date} :
    InCalendar today (Timestamp.ofDate d) ↔ d ∈ calendarDates today := by
  have hmidnight : Timestamp.ofDate d = Timestamp.ofMicros (d.day * 86400000000) := by
    simp only [Timestamp.ofDate, Timestamp.ofMicros, Timestamp.ofNanos, Timestamp.second,
      Timestamp.microsecond, Timestamp.mk.injEq]
    omega
  rw [hmidnight, inCalendar_iff hfirst hnext, ← hmidnight, Timestamp.date_ofDate]

/-- Whatever the resolution of an instant in the range is, its day is a day of the calendar. -/
theorem date_mem_of_inCalendar {t : Timestamp} (h : InCalendar today t) :
    t.date ∈ calendarDates today := by
  rw [InCalendar, calendarRange_eq hfirst hnext] at h
  simp only [Option.mem_def, Option.some.injEq, exists_eq_left', Timestamp.le_iff] at h
  rw [mem_calendarDates, Timestamp.date]
  dsimp only
  omega

end Range

/-! ## The rows -/

theorem mapM_eq_some_map {α β : Type} {f : α → Option β} {g : α → β} {xs : List α}
    (h : ∀ a ∈ xs, f a = some (g a)) : xs.mapM f = some (xs.map g) := by
  induction xs with
  | nil => rfl
  | cons a r ih =>
    have hr : r.mapM f = some (r.map g) := ih fun b hb => h b (List.mem_cons_of_mem a hb)
    simp [List.mapM_cons, h a List.mem_cons_self, hr]

/-- The days counted back from today, the farthest first, are those of the calendar. -/
theorem map_back_eq (today : Date) :
    ((List.range calendarDays).reverse.map fun back : ℕ => (⟨today.day + -back⟩ : Date)) =
      calendarDates today := by
  refine List.ext_getElem (by simp [calendarDates]) fun i hi hi' => ?_
  have hlt : i < 365 := by simpa [calendarDays] using hi
  simp only [calendarDates, calendarDays, List.getElem_map, List.getElem_reverse,
    List.length_range, List.getElem_range, Date.mk.injEq]
  omega

/-- **There is a row for every day of the calendar.** -/
theorem calendar_eq (α : Type) [Scalar α] (counts : List GroupCount)
    (hfirst : (today.shift? (-364)).isSome = true) (hnext : (today.shift? 1).isSome = true) :
    calendar α today counts = some ((calendarDates today).map (calendarRow α counts)) := by
  have hback : ∀ back ∈ (List.range calendarDays).reverse,
      (today.shift? (-(back : ℤ))).map (calendarRow α counts) =
        some (calendarRow α counts ⟨today.day + -back⟩) := by
    intro back hmem
    have hlt : back < 365 := by simpa [calendarDays] using hmem
    rw [Date.shift?_of_representable, Option.map_some]
    exact Date.representable_of_between (Date.isSome_shift?.1 hfirst)
      (representable_today hfirst hnext) (by dsimp only; omega) (by dsimp only; omega)
  rw [calendar, mapM_eq_some_map hback, ← map_back_eq, List.map_map]
  rfl

section Rows

variable {α : Type} [Scalar α] {d : Date}

@[simp] theorem date_calendarRow : (calendarRow α counts d).date = d := rfl

theorem visits_calendarRow :
    (calendarRow α counts d).visits = ((countOf d counts).map (·.events)).getD 0 := by
  rw [calendarRow]
  cases countOf d counts <;> rfl

theorem uniqueVisitors_calendarRow :
    (calendarRow α counts d).uniqueVisitors = ((countOf d counts).map (·.visitors)).getD 0 := by
  rw [calendarRow]
  cases countOf d counts <;> rfl

theorem level_calendarRow : (calendarRow α counts d).level =
    intensity α (calendarRow α counts d).visits (largestCount counts) := rfl

end Rows

/-! ## Counts and their days -/

/-- What may be counted for the calendar that ends on a day: no negative number of visits, at most
one count for a date, and no date outside of the range. -/
structure CountsFor (today : Date) (counts : List GroupCount) : Prop where
  nonneg : ∀ c ∈ counts, 0 ≤ c.events
  nodup : (counts.map fun c => c.bucket.date).Nodup
  inside : ∀ c ∈ counts, InCalendar today (Timestamp.ofDate c.bucket.date)

/-- **What the store counts in the range is counted for the calendar.** -/
theorem countsFor_eventsBetween (hfirst : (today.shift? (-364)).isSome = true)
    (hnext : (today.shift? 1).isSome = true) (s : Store) (projectId : String)
    {range : Timestamp × Timestamp} (hrange : range ∈ calendarRange today) :
    CountsFor today (Store.countsOf .day (s.eventsBetween projectId range.1 range.2)) := by
  have hevents : ∀ e ∈ s.eventsBetween projectId range.1 range.2, InCalendar today e.createdAt := by
    intro e he
    have hbetween := (List.mem_filter.1 (List.mem_mergeSort.1 he)).2
    simp only [Bool.and_eq_true, decide_eq_true_eq] at hbetween
    exact ⟨range, hrange, hbetween.1.2, hbetween.2⟩
  -- every bucket is the start of the day of some event
  have hbucket : ∀ c ∈ Store.countsOf .day (s.eventsBetween projectId range.1 range.2),
      0 ≤ c.events ∧ ∃ d ∈ calendarDates today, c.bucket = Timestamp.ofDate d := by
    intro c hc
    rw [Store.countsOf, mem_sortBy, List.mem_map] at hc
    obtain ⟨bucket, hmem, rfl⟩ := hc
    obtain ⟨e, he, rfl⟩ := List.mem_map.1 (mem_distinct.1 hmem)
    exact ⟨Int.natCast_nonneg _, e.createdAt.date, date_mem_of_inCalendar hfirst hnext
      (hevents e (List.mem_of_mem_filter he)), rfl⟩
  refine ⟨fun c hc => (hbucket c hc).1, ?_, fun c hc => ?_⟩
  · have hbuckets : ((Store.countsOf .day (s.eventsBetween projectId range.1 range.2)).map
        (·.bucket)).Nodup := by
      rw [Store.countsOf, ((sortBy_perm _ _).map _).nodup_iff, List.map_map]
      exact (List.map_id _).symm ▸ nodup_distinct _
    refine List.Nodup.map_on ?_ (hbuckets.of_map _)
    intro c hc c' hc' hdate
    obtain ⟨d, -, hd⟩ := (hbucket c hc).2
    obtain ⟨d', -, hd'⟩ := (hbucket c' hc').2
    rw [hd, hd', Timestamp.date_ofDate, Timestamp.date_ofDate] at hdate
    exact List.inj_on_of_nodup_map hbuckets hc hc' (by rw [hd, hd', hdate])
  · obtain ⟨d, hd, hc⟩ := (hbucket c hc).2
    rw [hc, Timestamp.date_ofDate]
    exact (inCalendar_ofDate_iff hfirst hnext).2 hd

theorem of_countOf {d : Date} {c : GroupCount} (h : countOf d counts = some c) :
    c ∈ counts ∧ c.bucket.date = d :=
  ⟨List.mem_reverse.1 (List.mem_of_find?_eq_some h), by simpa using List.find?_some h⟩

theorem countOf_eq_some_iff (hnodup : (counts.map fun c => c.bucket.date).Nodup) {d : Date}
    {c : GroupCount} : countOf d counts = some c ↔ c ∈ counts ∧ c.bucket.date = d := by
  constructor
  · exact of_countOf
  · rintro ⟨hc, rfl⟩
    obtain ⟨c', hc'⟩ : ∃ c', countOf c.bucket.date counts = some c' :=
      Option.isSome_iff_exists.1 (List.find?_isSome.2 ⟨c, List.mem_reverse.2 hc, by simp⟩)
    obtain ⟨hmem, hdate⟩ := of_countOf hc'
    rw [hc', List.inj_on_of_nodup_map hnodup hmem hc hdate]

theorem filter_date_eq (hnodup : (counts.map fun c => c.bucket.date).Nodup) (d : Date) :
    (counts.filter fun c => c.bucket.date = d) = (countOf d counts).toList := by
  cases h : countOf d counts with
  | none =>
    refine List.filter_eq_nil_iff.2 fun c hc hd => ?_
    rw [(countOf_eq_some_iff hnodup).2 ⟨hc, by simpa using hd⟩] at h
    cases h
  | some c =>
    have hmem : ∀ c', c' ∈ (counts.filter fun c => c.bucket.date = d) ↔ c' ∈ [c] := by
      intro c'
      rw [List.mem_filter, decide_eq_true_eq, ← countOf_eq_some_iff hnodup, h, List.mem_singleton,
        Option.some.injEq, eq_comm]
    have hperm : (counts.filter fun c => c.bucket.date = d).Perm [c] :=
      (List.perm_ext_iff_of_nodup ((hnodup.of_map _).filter _) (List.nodup_singleton c)).2 hmem
    exact List.perm_singleton.1 hperm

/-- **Looking up the days of the calendar finds every count once.** -/
theorem filterMap_countOf_perm (hnodup : (counts.map fun c => c.bucket.date).Nodup)
    (hdates : ∀ c ∈ counts, c.bucket.date ∈ calendarDates today) :
    ((calendarDates today).filterMap fun d => countOf d counts).Perm counts := by
  have hgroups := flatMap_filter_perm (fun c : GroupCount => c.bucket.date)
    (nodup_calendarDates today) hdates
  rw [List.filterMap_eq_flatMap_toList]
  simpa only [filter_date_eq hnodup] using hgroups

theorem sum_map_filterMap {α β : Type} (f : α → Option β) (g : β → ℤ) (xs : List α) :
    ((xs.filterMap f).map g).sum = (xs.map fun a => ((f a).map g).getD 0).sum := by
  induction xs with
  | nil => rfl
  | cons a r ih => cases h : f a <;> simp [h, ih]

/-- The values that are looked up for the days of the calendar add up to those of the counts. -/
theorem sum_calendarDates (hnodup : (counts.map fun c => c.bucket.date).Nodup)
    (hdates : ∀ c ∈ counts, c.bucket.date ∈ calendarDates today) (g : GroupCount → ℤ) :
    ((calendarDates today).map fun d => ((countOf d counts).map g).getD 0).sum =
      (counts.map g).sum := by
  rw [← sum_map_filterMap]
  exact ((filterMap_countOf_perm hnodup hdates).map g).sum_eq

/-! ## Levels -/

/-- The largest count is one of the counts, and zero if there is none. -/
theorem largestCount_eq (counts : List GroupCount) :
    largestCount counts = ((counts.map (·.events)).max?).getD 0 := by
  cases counts with
  | nil => rfl
  | cons c r =>
    rw [List.map_cons, List.max?_cons', Option.getD_some, List.foldl_map]
    rfl

theorem le_largestCount {c : GroupCount} (hc : c ∈ counts) : c.events ≤ largestCount counts := by
  have hmem : c.events ∈ counts.map (·.events) := List.mem_map_of_mem hc
  obtain ⟨m, hm⟩ : ∃ m, (counts.map (·.events)).max? = some m :=
    Option.isSome_iff_exists.1 (List.isSome_max?_of_mem hmem)
  rw [largestCount_eq, hm]
  exact (List.max?_eq_some_iff.1 hm).2 _ hmem

theorem largestCount_cases (counts : List GroupCount) :
    counts = [] ∧ largestCount counts = 0 ∨ ∃ c ∈ counts, c.events = largestCount counts := by
  rw [largestCount_eq]
  cases hm : (counts.map (·.events)).max? with
  | none => exact Or.inl ⟨List.map_eq_nil_iff.1 (List.max?_eq_none_iff.1 hm), rfl⟩
  | some m => exact Or.inr (List.mem_map.1 (List.max?_eq_some_iff.1 hm).1)

/-- The quarter of the largest number of visits in which a number of visits is; zero is in none. -/
def quarter (visits largest : ℤ) : ℕ :=
  if visits = 0 then 0
  else if 4 * visits ≤ largest then 1
  else if 4 * visits ≤ 2 * largest then 2
  else if 4 * visits ≤ 3 * largest then 3
  else 4

theorem quarter_eq_zero_iff {visits largest : ℤ} : quarter visits largest = 0 ↔ visits = 0 := by
  unfold quarter
  split_ifs <;> simp [*]

theorem quarter_mono {a b largest : ℤ} (ha : 0 ≤ a) (hab : a ≤ b) :
    quarter a largest ≤ quarter b largest := by
  unfold quarter
  split_ifs <;> omega

theorem quarter_largest {largest : ℤ} (h : 0 < largest) : quarter largest largest = 4 := by
  unfold quarter
  split_ifs <;> omega

theorem ratio_le_iff {a b : ℤ} (hb : 0 < b) (m : ℕ) {k : ℕ} (hk : 0 < k) :
    (a : ℚ) / b ≤ m / k ↔ k * a ≤ m * b := by
  have hb' : (0 : ℚ) < b := by exact_mod_cast hb
  have hk' : (0 : ℚ) < k := by exact_mod_cast hk
  rw [div_le_div_iff₀ hb' hk', mul_comm (a : ℚ)]
  exact_mod_cast Iff.rfl

/-- **The level of a day is its quarter**, in exact numbers. -/
theorem intensity_rat {visits largest : ℤ} (hvisits : 0 ≤ visits) (hle : visits ≤ largest) :
    intensity ℚ visits largest = quarter visits largest := by
  by_cases hzero : visits = 0
  · rw [intensity, if_pos (Or.inl hzero.le), quarter, if_pos hzero]
  · have hlargest : 0 < largest := by omega
    have hsome : ¬(visits ≤ 0 ∨ largest ≤ 0) := by omega
    have hhalf : 2 * visits ≤ largest ↔ 4 * visits ≤ 2 * largest := by omega
    have hfour : 0 < 4 := by decide
    have htwo : 0 < 2 := by decide
    simp only [intensity, quarter, hsome, hzero, if_false, Scalar.ofInt_rat, Scalar.ofNat_rat,
      ratio_le_iff hlargest _ hfour, ratio_le_iff hlargest _ htwo]
    simp only [Nat.cast_ofNat, Nat.cast_one, one_mul, hhalf]

/-! ## The calendar -/

/-- The rows show some counts. -/
structure ShowsCounts (counts : List GroupCount) (rows : List CalendarDay) : Prop where
  /-- A count is shown in the row of its date, and there is one such row. -/
  shown : ∀ c ∈ counts, ∃ r ∈ rows, r.visits = c.events ∧ r.uniqueVisitors = c.visitors ∧
    ∀ r' ∈ rows, r'.date = c.bucket.date ↔ r' = r
  /-- All other rows are zero. -/
  others : ∀ r ∈ rows, (∀ c ∈ counts, c.bucket.date ≠ r.date) →
    r.visits = 0 ∧ r.uniqueVisitors = 0
  sum_visits : (rows.map (·.visits)).sum = (counts.map (·.events)).sum
  sum_uniqueVisitors : (rows.map (·.uniqueVisitors)).sum = (counts.map (·.visitors)).sum

/-- The levels of the rows are relative to the largest number of visits. -/
structure HasLevels (rows : List CalendarDay) : Prop where
  /-- The level of a row is the quarter of the largest number of visits that it is in. -/
  quarter : ∃ largest, (∀ r ∈ rows, r.visits ≤ largest) ∧ (∃ r ∈ rows, r.visits = largest) ∧
    ∀ r ∈ rows, r.level = quarter r.visits largest
  eq_zero_iff : ∀ r ∈ rows, r.level = 0 ↔ r.visits = 0
  mono : ∀ r ∈ rows, ∀ r' ∈ rows, r.visits ≤ r'.visits → r.level ≤ r'.level
  /-- The busiest day has level four, unless nobody came on any day. -/
  busiest : ∀ r ∈ rows, (∀ r' ∈ rows, r'.visits ≤ r.visits) → 0 < r.visits → r.level = 4

/-- The rows are the calendar that ends on a day and shows some counts. -/
structure IsCalendar (today : Date) (counts : List GroupCount) (rows : List CalendarDay) : Prop
    extends ShowsCounts counts rows, HasLevels rows where
  /-- There is a row for each of the 365 days that end today, in order. -/
  dates : rows.map (·.date) = (List.range 365).map fun i : ℕ => ⟨today.day - 364 + i⟩
  /-- Of the instants that are whole microseconds, which no leap second is, the range has those of
  the days that are shown. -/
  range : ∀ us : ℤ, InCalendar today (Timestamp.ofMicros us) ↔
    ∃ r ∈ rows, r.date = (Timestamp.ofMicros us).date

/-- Rows whose levels are quarters of their largest number of visits have their levels in the order
of their visits. -/
theorem hasLevels_of_quarter {rows : List CalendarDay} {largest : ℤ}
    (hnonneg : ∀ r ∈ rows, 0 ≤ r.visits) (hle : ∀ r ∈ rows, r.visits ≤ largest)
    (hlargest : ∃ r ∈ rows, r.visits = largest)
    (hlevel : ∀ r ∈ rows, r.level = quarter r.visits largest) : HasLevels rows where
  quarter := ⟨largest, hle, hlargest, hlevel⟩
  eq_zero_iff r hr := by rw [hlevel r hr, quarter_eq_zero_iff]
  mono r hr r' hr' hvisits := by
    rw [hlevel r hr, hlevel r' hr']
    exact quarter_mono (hnonneg r hr) hvisits
  busiest r hr hbusiest hpos := by
    obtain ⟨r', hr', hlargest⟩ := hlargest
    have heq : r.visits = largest := le_antisymm (hle r hr) (hlargest ▸ hbusiest r' hr')
    rw [hlevel r hr, heq, quarter_largest (heq ▸ hpos)]

namespace CountsFor

theorem visits_bounds (hcounts : CountsFor today counts) (d : Date) :
    0 ≤ (calendarRow ℚ counts d).visits ∧
      (calendarRow ℚ counts d).visits ≤ largestCount counts := by
  rw [visits_calendarRow]
  cases h : countOf d counts with
  | none =>
    refine ⟨le_refl _, ?_⟩
    rcases largestCount_cases counts with ⟨-, hzero⟩ | ⟨c, hc, hlargest⟩
    · exact hzero.ge
    · exact hlargest ▸ hcounts.nonneg c hc
  | some c =>
    have hc : c ∈ counts := (of_countOf h).1
    exact ⟨hcounts.nonneg c hc, le_largestCount hc⟩

theorem level_eq (hcounts : CountsFor today counts) (d : Date) : (calendarRow ℚ counts d).level =
    quarter (calendarRow ℚ counts d).visits (largestCount counts) := by
  obtain ⟨hnonneg, hle⟩ := hcounts.visits_bounds d
  rw [level_calendarRow, intensity_rat hnonneg hle]

theorem countOf_eq (hcounts : CountsFor today counts) {c : GroupCount} (hc : c ∈ counts) :
    countOf c.bucket.date counts = some c :=
  (countOf_eq_some_iff hcounts.nodup).2 ⟨hc, rfl⟩

/-- Some day has the largest number of visits. -/
theorem exists_largest (hcounts : CountsFor today counts)
    (hdates : ∀ c ∈ counts, c.bucket.date ∈ calendarDates today) :
    ∃ d ∈ calendarDates today, (calendarRow ℚ counts d).visits = largestCount counts := by
  rcases largestCount_cases counts with ⟨rfl, hzero⟩ | ⟨c, hc, hlargest⟩
  · refine ⟨today, mem_calendarDates.2 ⟨by omega, le_refl _⟩, ?_⟩
    rw [visits_calendarRow, hzero]
    rfl
  · refine ⟨c.bucket.date, hdates c hc, ?_⟩
    rw [visits_calendarRow, hcounts.countOf_eq hc]
    exact hlargest

theorem showsCounts_rows (hcounts : CountsFor today counts)
    (hdates : ∀ c ∈ counts, c.bucket.date ∈ calendarDates today) :
    ShowsCounts counts ((calendarDates today).map (calendarRow ℚ counts)) where
  shown c hc := by
    refine ⟨_, List.mem_map_of_mem (hdates c hc), ?_, ?_, fun r' hr' => ?_⟩
    · rw [visits_calendarRow, hcounts.countOf_eq hc]
      rfl
    · rw [uniqueVisitors_calendarRow, hcounts.countOf_eq hc]
      rfl
    · obtain ⟨d, -, rfl⟩ := List.mem_map.1 hr'
      constructor
      · rintro rfl
        rfl
      · intro heq
        rw [heq, date_calendarRow]
  others r hr hother := by
    obtain ⟨d, -, rfl⟩ := List.mem_map.1 hr
    have hnone : countOf d counts = none :=
      Option.eq_none_iff_forall_ne_some.2 fun c hc => hother c (of_countOf hc).1 (of_countOf hc).2
    rw [visits_calendarRow, uniqueVisitors_calendarRow, hnone]
    exact ⟨rfl, rfl⟩
  sum_visits := by
    rw [List.map_map, ← sum_calendarDates hcounts.nodup hdates]
    exact congrArg List.sum (List.map_congr_left fun d _ => visits_calendarRow)
  sum_uniqueVisitors := by
    rw [List.map_map, ← sum_calendarDates hcounts.nodup hdates]
    exact congrArg List.sum (List.map_congr_left fun d _ => uniqueVisitors_calendarRow)

theorem hasLevels_rows (hcounts : CountsFor today counts)
    (hdates : ∀ c ∈ counts, c.bucket.date ∈ calendarDates today) :
    HasLevels ((calendarDates today).map (calendarRow ℚ counts)) := by
  have hrow : ∀ {p : CalendarDay → Prop}, (∀ d, p (calendarRow ℚ counts d)) →
      ∀ r ∈ (calendarDates today).map (calendarRow ℚ counts), p r := by
    intro p hp r hr
    obtain ⟨d, -, rfl⟩ := List.mem_map.1 hr
    exact hp d
  obtain ⟨d, hd, hlargest⟩ := hcounts.exists_largest hdates
  exact hasLevels_of_quarter (hrow fun d => (hcounts.visits_bounds d).1)
    (hrow fun d => (hcounts.visits_bounds d).2) ⟨_, List.mem_map_of_mem hd, hlargest⟩
    (hrow hcounts.level_eq)

end CountsFor

/-- **The calendar covers its range.** Let the first of the 365 days that end today and tomorrow be
days that can be handled, and let no two counts have the same date, nor any a date outside of the
range. Then there is a calendar: it has a row for each of these days in order, shows every count in
the row of its date and zero elsewhere, and adds up to the counts; its range has, to the
microsecond, the instants of the days shown; and the level of a row is, in exact numbers, the
quarter of the largest number of visits that its visits are in. -/
theorem calendar_isCalendar (hfirst : (today.shift? (-364)).isSome = true)
    (hnext : (today.shift? 1).isSome = true) (hcounts : CountsFor today counts) :
    ∃ rows, calendar ℚ today counts = some rows ∧ IsCalendar today counts rows := by
  have hdates : ∀ c ∈ counts, c.bucket.date ∈ calendarDates today := fun c hc =>
    (inCalendar_ofDate_iff hfirst hnext).1 (hcounts.inside c hc)
  refine ⟨_, calendar_eq ℚ counts hfirst hnext,
    hcounts.showsCounts_rows hdates, hcounts.hasLevels_rows hdates, ?_, fun us => ?_⟩
  · rw [List.map_map]
    exact List.map_id _
  · rw [inCalendar_iff hfirst hnext]
    simp

/-- A calendar that ends on a leap day, with counts on its first and its last day. -/
theorem calendar_isCalendar_leap_day :
    let today := Date.ofCivil 2024 2 29
    let counts : List GroupCount :=
      [⟨Timestamp.ofDate (Date.ofCivil 2023 3 2), 3, 2⟩, ⟨Timestamp.ofDate today, 12, 5⟩]
    (today.shift? (-364)).isSome = true ∧ (today.shift? 1).isSome = true ∧
      CountsFor today counts ∧ ∃ rows, calendar ℚ today counts = some rows ∧
        IsCalendar today counts rows ∧ (rows.map (·.visits)).sum = 15 := by
  intro today counts
  have hfirst : (today.shift? (-364)).isSome = true := by decide
  have hnext : (today.shift? 1).isSome = true := by decide
  have hcounts : CountsFor today counts := by
    refine ⟨by decide, by decide, fun c hc => (inCalendar_ofDate_iff hfirst hnext).2 ?_⟩
    revert c
    decide
  obtain ⟨rows, hrows, hcalendar⟩ := calendar_isCalendar hfirst hnext hcounts
  exact ⟨hfirst, hnext, hcounts, rows, hrows, hcalendar, hcalendar.sum_visits⟩

end Footfall
