import Mathlib.Data.Finset.Option
import Footfall.Proofs.Cache.Operations
import Footfall.Proofs.Time

/-!
# The history of a cache

A cache is used by operations at moments that do not go back (`Op`). Reading through it is two of
them, since others may come in between: the lookup, and after a miss the end of the loader, which
writes the value that was loaded, or does nothing when the loader failed. What can be told from
outside is a history of lookups with their results, writes and removals (`Event`, `Cache.trace`).

What a history says of a key does not mention the cache: the value of the last write, if nothing has
removed it since, and the moment at which it was last touched (`Remembers`). The same is computed
forwards, event by event, by `lastKnown`, a plain map with a moment for each value; the two agree by
`remembers_iff`.
-/

namespace Footfall.Cache

/-- An operation on a cache. -/
inductive Op (κ ν : Type) where
  | get (key : κ)
  | insert (key : κ) (value : ν)
  /-- The lookup with which reading through the cache begins. -/
  | lookUp (key : κ)
  /-- The end of a loader: with a value, or with none when it failed. -/
  | loaded (key : κ) (result : Option ν)
  | getOrInsertWith (key : κ) (initial : ν)
  | invalidate (key : κ)
  | clear

/-- What happens to a key in the course of an operation. -/
inductive Event (κ ν : Type) where
  /-- A key is looked up, and a value is found or none. -/
  | looked (key : κ) (found : Option ν)
  | wrote (key : κ) (value : ν)
  | forgot (key : κ)
  | cleared

/-- Events with their moments, the latest last. -/
abbrev History (κ ν : Type) := List (Moment × Event κ ν)

section Run

variable {κ ν : Type} [DecidableEq κ]

/-- The events of an operation, and the cache after it. -/
def step (c : Cache κ ν) (now : Moment) : Op κ ν → List (Event κ ν) × Cache κ ν
  | .get k => ([.looked k (c.get k now).1], (c.get k now).2)
  | .insert k v => ([.wrote k v], c.insert k v now)
  | .lookUp k => ([.looked k (c.get k now).1], (c.get k now).2)
  | .loaded k (some v) => ([.wrote k v], c.insert k v now)
  | .loaded _ none => ([], c)
  | .getOrInsertWith k initial =>
    match c.obtain k (fun _ => initial) now with
    | ((v, false), c) => ([.looked k (some v)], c)
    | ((v, true), c) => ([.looked k none, .wrote k v], c)
  | .invalidate k => ([.forgot k], c.invalidate k)
  | .clear => ([.cleared], c.clear)

/-- **What an operation can do.** It looks a key up, writes one, writes one that it found missing,
does nothing, or forgets one key or all. -/
theorem step_cases (c : Cache κ ν) (now : Moment) (op : Op κ ν) :
    (∃ k, c.step now op = ([.looked k (c.get k now).1], (c.get k now).2)) ∨
    (∃ k v, c.step now op = ([.wrote k v], c.insert k v now)) ∨
    (∃ k v, (c.get k now).1 = none ∧
      c.step now op = ([.looked k none, .wrote k v], c.insert k v now)) ∨
    c.step now op = ([], c) ∨
    (∃ k, c.step now op = ([.forgot k], c.invalidate k)) ∨
    c.step now op = ([.cleared], c.clear) := by
  cases op with
  | get k => exact .inl ⟨k, rfl⟩
  | insert k v => exact .inr (.inl ⟨k, v, rfl⟩)
  | lookUp k => exact .inl ⟨k, rfl⟩
  | loaded k result =>
    cases result with
    | none => exact .inr (.inr (.inr (.inl rfl)))
    | some v => exact .inr (.inl ⟨k, v, rfl⟩)
  | getOrInsertWith k initial =>
    rw [step, obtain_eq]
    cases hfound : (c.get k now).1 with
    | some v => exact .inl ⟨k, by rw [hfound]⟩
    | none => exact .inr (.inr (.inl ⟨k, initial, hfound, rfl⟩))
  | invalidate k => exact .inr (.inr (.inr (.inr (.inl ⟨k, rfl⟩))))
  | clear => exact .inr (.inr (.inr (.inr (.inr rfl))))

/-- The history of a run. -/
def trace (c : Cache κ ν) : List (Moment × Op κ ν) → History κ ν
  | [] => []
  | (now, op) :: r => ((c.step now op).1.map fun e => (now, e)) ++ trace (c.step now op).2 r

/-- The cache after a run. -/
def after (c : Cache κ ν) : List (Moment × Op κ ν) → Cache κ ν
  | [] => c
  | (now, op) :: r => after (c.step now op).2 r

theorem trace_append (c : Cache κ ν) (ops rest : List (Moment × Op κ ν)) :
    c.trace (ops ++ rest) = c.trace ops ++ (c.after ops).trace rest := by
  induction ops generalizing c with
  | nil => rfl
  | cons op r ih => simp only [List.cons_append, trace, after, ih, List.append_assoc]

/-- The moments of operations do not go back, and end before a given one. -/
def InOrder (ops : List (Moment × Op κ ν)) (now : Moment) : Prop :=
  (ops.map (·.1) ++ [now]).Pairwise (· ≤ ·)

variable {c : Cache κ ν} {ops : List (Moment × Op κ ν)}

theorem exists_of_mem_trace {e : Moment × Event κ ν} (h : e ∈ c.trace ops) :
    ∃ op ∈ ops, op.1 = e.1 := by
  induction ops generalizing c with
  | nil => simp [trace] at h
  | cons op r ih =>
    rcases List.mem_append.1 h with h | h
    · obtain ⟨x, -, rfl⟩ := List.mem_map.1 h
      exact ⟨op, by simp, rfl⟩
    · obtain ⟨op', hop', heq⟩ := ih h
      exact ⟨op', by simp [hop'], heq⟩

/-- The moments of a history do not go back if those of the operations do not. -/
theorem pairwise_trace (hops : (ops.map (·.1)).Pairwise (· ≤ ·)) :
    ((c.trace ops).map (·.1)).Pairwise (· ≤ ·) := by
  induction ops generalizing c with
  | nil => exact List.Pairwise.nil
  | cons op r ih =>
    rw [List.map_cons, List.pairwise_cons] at hops
    rw [trace, List.map_append, List.map_map, List.pairwise_append]
    refine ⟨?_, ih hops.2, ?_⟩
    · exact List.pairwise_map.2 (List.pairwise_of_forall fun _ _ => le_refl _)
    · intro s hs t ht
      obtain ⟨x, -, rfl⟩ := List.mem_map.1 hs
      obtain ⟨e, he, rfl⟩ := List.mem_map.1 ht
      obtain ⟨op', hop', heq⟩ := exists_of_mem_trace he
      exact heq ▸ hops.1 _ (List.mem_map_of_mem hop')

end Run

/-! ## What a history says -/

namespace Event

variable {κ ν : Type}

/-- Does the event end what was written to the key before? -/
def Ends (k : κ) : Event κ ν → Prop
  | .looked _ _ => False
  | .wrote j _ => j = k
  | .forgot j => j = k
  | .cleared => True

/-- Is the event a successful read of the key? -/
def reads [DecidableEq κ] (k : κ) : Event κ ν → Bool
  | .looked j (some _) => j = k
  | _ => false

/-- The key that the event writes. -/
def written? : Event κ ν → Option κ
  | .wrote j _ => some j
  | _ => none

end Event

section Recall

variable {κ ν : Type} [DecidableEq κ]

/-- The keys that were written in a history. -/
def writtenKeys (past : History κ ν) : Finset κ :=
  (past.filterMap fun e => e.2.written?).toFinset

theorem mem_writtenKeys {past : History κ ν} {k : κ} :
    k ∈ writtenKeys past ↔ ∃ e ∈ past, e.2.written? = some k := by
  simp [writtenKeys]

theorem writtenKeys_append (past newer : History κ ν) :
    writtenKeys (past ++ newer) = writtenKeys past ∪ writtenKeys newer := by
  simp [writtenKeys]

@[simp] theorem writtenKeys_singleton (t : Moment) (x : Event κ ν) :
    writtenKeys [(t, x)] = x.written?.toFinset := by
  cases h : x.written? <;> simp [writtenKeys, h]

/-- The moment of the last successful read of a key. -/
def lastRead? (k : κ) (events : History κ ν) : Option Moment :=
  ((events.filter fun e => e.2.reads k).getLast?).map (·.1)

/-- The moment from which the time of a key runs that was written at a moment, with the given events
since then: that of the write or, if reads start the time anew, the later one of the write and the
last successful read. -/
def lastTouch (expiry : Expiry) (k : κ) (written : Moment) (newer : History κ ν) : Moment :=
  match expiry with
  | .afterWrite _ => written
  | .afterAccess _ => max written ((lastRead? k newer).getD written)

/-- The last write of the key wrote the value, at some moment, with some events since then, none of
which ended it; and it was last touched at the given moment. -/
def WrittenLast (expiry : Expiry) (past : History κ ν) (k : κ) (v : ν) (touched : Moment) : Prop :=
  ∃ older written newer, past = older ++ (written, .wrote k v) :: newer ∧
    (∀ e ∈ newer, ¬ e.2.Ends k) ∧ touched = lastTouch expiry k written newer

/-- **What a cache should find for a key.** The value is that of the last write of the key, nothing
has ended it since, and less than the time to live has passed since it was last touched. -/
def Remembers (expiry : Expiry) (past : History κ ν) (now : Moment) (k : κ) (v : ν) : Prop :=
  ∃ touched, WrittenLast expiry past k v touched ∧ elapsed touched now < expiry.ttl

/-! ## A plain map with moments -/

/-- What an event does to what is known of a key. -/
def learn (refreshes : Bool) (k : κ) (known : Option (CacheEntry ν)) :
    Moment × Event κ ν → Option (CacheEntry ν)
  | (t, .looked j (some _)) =>
    if j = k ∧ refreshes = true then known.map fun e => { e with touchedAt := t } else known
  | (_, .looked _ none) => known
  | (t, .wrote j v) => if j = k then some ⟨v, t⟩ else known
  | (_, .forgot j) => if j = k then none else known
  | (_, .cleared) => none

/-- What is known of a key after a history. -/
def lastKnown (refreshes : Bool) (past : History κ ν) (k : κ) : Option (CacheEntry ν) :=
  past.foldl (learn refreshes k) none

variable {refreshes : Bool} {expiry : Expiry} {past : History κ ν} {k : κ}

@[simp] theorem lastKnown_nil : lastKnown refreshes ([] : History κ ν) k = none := rfl

@[simp] theorem lastKnown_append (e : Moment × Event κ ν) :
    lastKnown refreshes (past ++ [e]) k = learn refreshes k (lastKnown refreshes past k) e := by
  simp [lastKnown]

/-- Something is known after an event only if the event is a write, or if it was known before and
the event does not end it. -/
theorem isSome_learn {known : Option (CacheEntry ν)} {t : Moment} {x : Event κ ν}
    (h : (learn refreshes k known (t, x)).isSome) :
    (∃ v, x = .wrote k v) ∨ known.isSome ∧ ¬ x.Ends k := by
  rcases x with ⟨j, _ | u⟩ | ⟨j, v⟩ | j | _ <;> grind [learn, Event.Ends]

/-- Something is known of a key only if it was written and nothing ended it since. -/
theorem exists_of_isSome_lastKnown (h : (lastKnown refreshes past k).isSome) :
    ∃ older written v newer, past = older ++ (written, .wrote k v) :: newer ∧
      ∀ e ∈ newer, ¬ e.2.Ends k := by
  induction past using List.reverseRecOn with
  | nil => simp at h
  | append_singleton past e ih =>
    obtain ⟨t, x⟩ := e
    rw [lastKnown_append] at h
    rcases isSome_learn h with ⟨v, rfl⟩ | ⟨hknown, hends⟩
    · exact ⟨past, t, v, [], rfl, by simp⟩
    · obtain ⟨older, written, v, newer, rfl, hnewer⟩ := ih hknown
      refine ⟨older, written, v, newer ++ [(t, x)], by simp, ?_⟩
      intro e he
      rcases List.mem_append.1 he with he | he
      · exact hnewer e he
      · rwa [List.mem_singleton.1 he]

theorem mem_writtenKeys_of_lastKnown {e : CacheEntry ν} (h : lastKnown refreshes past k = some e) :
    k ∈ writtenKeys past := by
  obtain ⟨older, written, v, newer, rfl, -⟩ :=
    exists_of_isSome_lastKnown (Option.isSome_of_eq_some h)
  exact mem_writtenKeys.2 ⟨(written, .wrote k v), by simp, rfl⟩

/-- Events that end nothing keep the value, and its moment becomes that of the last read. -/
theorem foldl_learn {newer : History κ ν} (hnewer : ∀ e ∈ newer, ¬ e.2.Ends k)
    (v : ν) (t : Moment) :
    newer.foldl (learn refreshes k) (some ⟨v, t⟩) =
      some ⟨v, if refreshes then (lastRead? k newer).getD t else t⟩ := by
  induction newer using List.reverseRecOn with
  | nil => simp [lastRead?]
  | append_singleton newer e ih =>
    obtain ⟨s, x⟩ := e
    rw [List.foldl_append, ih fun e he => hnewer e (by simp [he])]
    have hends : ¬ x.Ends k := hnewer (s, x) (by simp)
    cases x with
    | looked j found => cases found <;> cases refreshes <;>
        by_cases hj : j = k <;> simp [learn, lastRead?, Event.reads, hj]
    | wrote j u =>
      have hj : j ≠ k := hends
      simp [learn, lastRead?, Event.reads, hj]
    | forgot j =>
      have hj : j ≠ k := hends
      simp [learn, lastRead?, Event.reads, hj]
    | cleared => exact absurd trivial hends

theorem le_of_lastRead? {newer : History κ ν} {t s : Moment} (h : ∀ e ∈ newer, t ≤ e.1)
    (hs : lastRead? k newer = some s) : t ≤ s := by
  obtain ⟨e, he, rfl⟩ := Option.map_eq_some_iff.1 hs
  exact h e (List.mem_of_mem_filter (List.mem_of_getLast? he))

/-- What is known of a key after a history whose moments do not go back is its last write. -/
theorem lastKnown_eq_some_iff (hpast : (past.map (·.1)).Pairwise (· ≤ ·)) {e : CacheEntry ν} :
    lastKnown expiry.refreshes past k = some e ↔
      WrittenLast expiry past k e.value e.touchedAt := by
  -- the value and the moment that any split at the last write gives
  have hvalue : ∀ {older written v newer}, past = older ++ (written, .wrote k v) :: newer →
      (∀ e ∈ newer, ¬ e.2.Ends k) →
      lastKnown expiry.refreshes past k = some ⟨v, lastTouch expiry k written newer⟩ := by
    rintro older written v newer rfl hnewer
    rw [lastKnown, List.foldl_append, List.foldl_cons, learn, if_pos rfl,
      foldl_learn hnewer]
    rw [List.map_append, List.map_cons, List.pairwise_append, List.pairwise_cons] at hpast
    cases expiry with
    | afterWrite _ => rfl
    | afterAccess _ =>
      have hle : written ≤ (lastRead? k newer).getD written := by
        cases h : lastRead? k newer with
        | none => exact le_refl written
        | some s => exact le_of_lastRead? (fun e he => hpast.2.1.1 _ (List.mem_map_of_mem he)) h
      simp [Expiry.refreshes, lastTouch, max_eq_right hle]
  constructor
  · intro h
    obtain ⟨older, written, v, newer, hsplit, hnewer⟩ :=
      exists_of_isSome_lastKnown (Option.isSome_of_eq_some h)
    obtain rfl := Option.some.inj (h.symm.trans (hvalue hsplit hnewer))
    exact ⟨older, written, newer, hsplit, hnewer, rfl⟩
  · rintro ⟨older, written, newer, hsplit, hnewer, htouched⟩
    rw [hvalue hsplit hnewer, ← htouched]

/-- Whether a cache should find a value is told by what is known of the key. -/
theorem remembers_iff (hpast : (past.map (·.1)).Pairwise (· ≤ ·)) {now : Moment} {v : ν} :
    Remembers expiry past now k v ↔
      ∃ touched, lastKnown expiry.refreshes past k = some ⟨v, touched⟩ ∧
        elapsed touched now < expiry.ttl := by
  simp only [Remembers, lastKnown_eq_some_iff hpast]

end Recall

end Footfall.Cache
