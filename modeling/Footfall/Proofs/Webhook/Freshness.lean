import Footfall.Proofs.Cache.ReadThrough
import Footfall.Proofs.Time
import Footfall.Proofs.Webhook.FanOut

/-!
# How old the webhooks and goals may be that an event is told by

A watcher is called for events and to forget what it read of a project (`Call`), at readings of the
clock that do not go back. Before every event the store may hold other webhooks and goals, or fail.

The webhooks and the goals of a project are two lists that are read in the same way (`Listing`): an
event that reads a list asks the store exactly if the cache finds none (`Listing.Asks`). From what
one call does to the entries of a cache (`Listing.IsKept`) it follows for a whole run that every
entry is what the store gave when it was asked last, at the moment the entry tells, and that its
project was not invalidated since (`Listing.IsKept.lookedUp`).

`lists_upToDate` puts this together for an event after any calls.
-/

namespace Footfall.Watcher

/-! ## Calls -/

/-- What a watcher is called for. -/
inductive Call where
  /-- An event that happens at `now`, when lookups in the store have the given answers. -/
  | event (lookup : Lookup) (stamp : Stamp) (e : Sighting) (now : Moment)
  | invalidate (projectId : String)

/-- The watcher after a call. -/
def step (w : Watcher) (clock : Moment) : Call → Watcher
  | .event lookup stamp e now => (w.offersAt lookup stamp e clock now).2
  | .invalidate p => w.invalidate p

/-- The watcher after some calls, each with the reading of the clock. -/
def after (w : Watcher) (calls : List (Moment × Call)) : Watcher :=
  calls.foldl (fun w x => w.step x.1 x.2) w

@[simp] theorem after_nil (w : Watcher) : w.after [] = w := rfl

@[simp] theorem after_cons (w : Watcher) (x : Moment × Call) (calls : List (Moment × Call)) :
    w.after (x :: calls) = (w.step x.1 x.2).after calls := rfl

@[simp] theorem after_append (w : Watcher) (calls more : List (Moment × Call)) :
    w.after (calls ++ more) = (w.after calls).after more :=
  List.foldl_append

theorem after_concat (w : Watcher) (calls : List (Moment × Call)) (x : Moment × Call) :
    w.after (calls ++ [x]) = (w.after calls).step x.1 x.2 := by
  rw [after_append, after_cons, after_nil]

/-- The readings of the clock do not go back, up to a given one. -/
def InOrder (calls : List (Moment × Call)) (clock : Moment) : Prop :=
  (calls.map (·.1) ++ [clock]).Pairwise (· ≤ ·)

/-! ## Lists -/

/-- A list of each project that a watcher reads through a cache: where it is kept, where it comes
from, and whether an event reads it. -/
structure Listing (α : Type) where
  cache : Watcher → Cache String α
  source : Lookup → String → Except StoreFailure α
  Reads : Watcher → Lookup → Sighting → Moment → Prop

/-- The active webhooks. Every event reads them. -/
def webhookList : Listing (List Webhook) where
  cache := webhooks
  source := Lookup.webhooks
  Reads _ _ _ _ := True

/-- The active goals. An event reads them if a webhook is to be told about goals. -/
def goalList : Listing (List Goal) where
  cache := goals
  source := Lookup.goals
  Reads w lookup e clock := ∃ hooks, (w.activeWebhooks lookup e.projectId clock).1 = .ok hooks ∧
    hooks.any fun h => h.active && h.topics.contains .goalConversion

namespace Listing

variable {α : Type} (l : Listing α) (p : String)

/-- The list of a project, read through the cache: what it is, and whether the store was asked. -/
def read (w : Watcher) (lookup : Lookup) (clock : Moment) :
    Except StoreFailure (α × Bool) × Cache String α :=
  (l.cache w).getOrCompute p (fun _ => l.source lookup p) clock

/-- Does an event ask the store for the list? -/
def Asks (w : Watcher) (lookup : Lookup) (e : Sighting) (clock : Moment) : Prop :=
  l.Reads w lookup e clock ∧ ((l.cache w).get e.projectId clock).1 = none

/-- In some calls of a new watcher, the store was asked for the list of a project at `s` and gave
`v`. The project was not invalidated afterwards. -/
def LookedUp (calls : List (Moment × Call)) (s : Moment) (v : α) : Prop :=
  ∃ before lookup stamp e now later,
    calls = before ++ (s, .event lookup stamp e now) :: later ∧ e.projectId = p ∧
      l.Asks (new.after before) lookup e s ∧ l.source lookup p = .ok v ∧
      ∀ x ∈ later, x.2 ≠ .invalidate p

/-- Is a call of a watcher an event of the project that reads the list? -/
def ReadBy (w : Watcher) (clock : Moment) : Call → Prop
  | .event lookup _ e _ => e.projectId = p ∧ l.Reads w lookup e clock
  | .invalidate _ => False

/-- None of some calls of a watcher is an event of the project that reads the list. -/
def Unread (w : Watcher) : List (Moment × Call) → Prop
  | [] => True
  | (clock, call) :: r => ¬ l.ReadBy p w clock call ∧ Unread (w.step clock call) r

end Listing

/-! ## What a call does to what is kept -/

section Event

variable (w : Watcher) (lookup : Lookup) (stamp : Stamp) (e : Sighting) (clock now : Moment)

theorem spikeOffers_snd (n : Nat) (hooks : List Webhook) :
    (w.spikeOffers stamp n hooks e clock now).2.webhooks = w.webhooks ∧
      (w.spikeOffers stamp n hooks e clock now).2.goals = w.goals := by
  rw [spikeOffers]
  split_ifs
  · exact ⟨rfl, rfl⟩
  · rcases w.spikes.record e.projectId clock now with ⟨_ | spike, d⟩ <;> exact ⟨rfl, rfl⟩

/-- The goals are read exactly if a webhook is to be told about them. -/
theorem goalOffers_snd (hooks : List Webhook) :
    (w.goalOffers lookup stamp hooks e clock).2 =
      if hooks.any fun h => h.active && h.topics.contains .goalConversion then
        (w.activeGoals lookup e.projectId clock).2
      else w := by
  rw [goalOffers, isEmpty_subscribers]
  cases hooks.any fun h => h.active && h.topics.contains .goalConversion with
  | false => rfl
  | true => rcases w.activeGoals lookup e.projectId clock with ⟨_ | goals, w'⟩ <;> rfl

theorem webhooks_offersAt :
    (w.offersAt lookup stamp e clock now).2.webhooks =
      (w.activeWebhooks lookup e.projectId clock).2.webhooks := by
  rw [offersAt]
  rcases w.activeWebhooks lookup e.projectId clock with ⟨f | hooks, w'⟩
  · rfl
  · simp only [(spikeOffers_snd ..).1, goalOffers_snd]
    split_ifs <;> rfl

theorem goals_offersAt_of_error {f : StoreFailure}
    (h : (w.activeWebhooks lookup e.projectId clock).1 = .error f) :
    (w.offersAt lookup stamp e clock now).2.goals = w.goals := by
  have hgoals : (w.activeWebhooks lookup e.projectId clock).2.goals = w.goals := rfl
  rw [offersAt]
  rcases hhooks : w.activeWebhooks lookup e.projectId clock with ⟨result, w'⟩
  rw [hhooks] at h hgoals
  obtain rfl : result = .error f := h
  exact hgoals

theorem goals_offersAt_of_ok {hooks : List Webhook}
    (h : (w.activeWebhooks lookup e.projectId clock).1 = .ok hooks) :
    (w.offersAt lookup stamp e clock now).2.goals =
      if hooks.any fun h => h.active && h.topics.contains .goalConversion then
        (w.activeGoals lookup e.projectId clock).2.goals
      else w.goals := by
  have hgoals : (w.activeWebhooks lookup e.projectId clock).2.goals = w.goals := rfl
  rw [offersAt]
  rcases hhooks : w.activeWebhooks lookup e.projectId clock with ⟨result, w'⟩
  rw [hhooks] at h hgoals
  obtain rfl : result = .ok hooks := h
  simp only [(spikeOffers_snd ..).2, goalOffers_snd]
  split_ifs
  · rw [activeGoals, activeGoals, show w'.goals = w.goals from hgoals]
  · exact hgoals

end Event

namespace Listing

variable {α : Type} {l : Listing α} {p : String} {w : Watcher} {calls : List (Moment × Call)}
  {lookup : Lookup} {stamp : Stamp} {e : Sighting} {clock now : Moment}

/-- A list is kept in a cache whose entries are a minute old at most. A call reads through it if it
is an event that reads the list, forgets a project, or leaves it as it is. -/
structure IsKept (l : Listing α) : Prop where
  cache_new : l.cache new = Cache.empty (.afterWrite timeToLive) maxProjects
  cache_of_reads {w : Watcher} {lookup : Lookup} {e : Sighting} {clock : Moment} (stamp : Stamp)
    (now : Moment) (h : l.Reads w lookup e clock) :
    l.cache (w.offersAt lookup stamp e clock now).2 = (l.read e.projectId w lookup clock).2
  cache_of_not_reads {w : Watcher} {lookup : Lookup} {e : Sighting} {clock : Moment} (stamp : Stamp)
    (now : Moment) (h : ¬ l.Reads w lookup e clock) :
    l.cache (w.offersAt lookup stamp e clock now).2 = l.cache w
  cache_invalidate (w : Watcher) (p : String) :
    l.cache (w.invalidate p) = (l.cache w).invalidate p

theorem isKept_webhookList : webhookList.IsKept where
  cache_new := rfl
  cache_of_reads stamp now _ := webhooks_offersAt _ _ stamp _ _ now
  cache_of_not_reads _ _ h := absurd trivial h
  cache_invalidate _ _ := rfl

theorem isKept_goalList : goalList.IsKept where
  cache_new := rfl
  cache_of_reads stamp now h := by
    obtain ⟨hooks, hread, htold⟩ := h
    exact (goals_offersAt_of_ok _ _ stamp _ _ now hread).trans (if_pos htold)
  cache_of_not_reads {w lookup e clock} stamp now h := by
    cases hread : (w.activeWebhooks lookup e.projectId clock).1 with
    | error f => exact goals_offersAt_of_error w lookup stamp e clock now hread
    | ok hooks =>
      have htold : ¬ hooks.any fun h => h.active && h.topics.contains .goalConversion :=
        fun htold => h ⟨hooks, hread, htold⟩
      exact (goals_offersAt_of_ok w lookup stamp e clock now hread).trans (if_neg htold)
  cache_invalidate _ _ := rfl

/-- **What a call does to what is kept of a list.** It reads the list of a project through the
cache, leaves all as it is, or forgets a project. -/
theorem IsKept.step_cases (hl : l.IsKept) (w : Watcher) (clock : Moment) (call : Call) :
    (∃ lookup stamp e now, call = .event lookup stamp e now ∧ l.Reads w lookup e clock ∧
      l.cache (w.step clock call) = (l.read e.projectId w lookup clock).2) ∨
    ((∀ q, call ≠ .invalidate q) ∧ l.cache (w.step clock call) = l.cache w) ∨
    ∃ q, call = .invalidate q ∧ l.cache (w.step clock call) = (l.cache w).invalidate q := by
  cases call with
  | event lookup stamp e now =>
    by_cases hreads : l.Reads w lookup e clock
    · exact .inl ⟨lookup, stamp, e, now, rfl, hreads, hl.cache_of_reads stamp now hreads⟩
    · exact .inr (.inl ⟨nofun, hl.cache_of_not_reads stamp now hreads⟩)
  | invalidate q => exact .inr (.inr ⟨q, rfl, hl.cache_invalidate w q⟩)

theorem IsKept.expiry_after (hl : l.IsKept) (calls : List (Moment × Call)) :
    (l.cache (new.after calls)).expiry = .afterWrite timeToLive := by
  induction calls using List.reverseRecOn with
  | nil => rw [after_nil, hl.cache_new, Cache.empty]
  | append_singleton calls x ih =>
    rw [after_concat]
    rcases hl.step_cases (new.after calls) x.1 x.2 with
      ⟨lookup, stamp, e, now, -, -, heq⟩ | ⟨-, heq⟩ | ⟨q, -, heq⟩ <;> rw [heq]
    · rw [read, Cache.expiry_getOrCompute, ih]
    · exact ih
    · exact ih

/-- Reads do not start the time of an entry anew. -/
theorem IsKept.refreshes_after (hl : l.IsKept) (calls : List (Moment × Call)) :
    (l.cache (new.after calls)).expiry.refreshes = false := by
  rw [hl.expiry_after, Expiry.refreshes]

/-- What an event of a project that asks the store is given is what the store gives. -/
theorem read_of_asks (h : l.Asks w lookup e clock) :
    (l.read e.projectId w lookup clock).1 =
      (l.source lookup e.projectId).map fun v => (v, true) :=
  Cache.getOrCompute_of_missed h.2

/-- An event that reads a list of which nothing is kept asks the store. -/
theorem asks_of_absent (hreads : l.Reads w lookup e clock)
    (h : (l.cache w).entries.find? e.projectId = none) : l.Asks w lookup e clock := by
  refine ⟨hreads, ?_⟩
  rw [Cache.get_fst, Cache.live?, h]
  rfl

/-! ## Nothing is kept after a failure -/

/-- What is not kept stays so until an event of the project reads it. -/
theorem IsKept.absent_after (hl : l.IsKept) (hunread : l.Unread p w calls)
    (h : (l.cache w).entries.find? p = none) :
    (l.cache (w.after calls)).entries.find? p = none := by
  induction calls generalizing w with
  | nil => exact h
  | cons x r ih =>
    obtain ⟨hother, hrest⟩ := hunread
    refine ih hrest ?_
    rcases hl.step_cases w x.1 x.2 with
      ⟨lookup, stamp, e, now, hcall, hreads, heq⟩ | ⟨-, heq⟩ | ⟨q, -, heq⟩ <;> rw [heq]
    · have hne : p ≠ e.projectId := by
        rintro rfl
        rw [hcall] at hother
        exact hother ⟨rfl, hreads⟩
      exact Cache.find?_getOrCompute_of_ne hne h
    · exact h
    · rw [Cache.find?_invalidate, h, ite_self]

/-- Nothing is kept of a list that the store was asked for and did not give. -/
theorem IsKept.absent_of_failed (hl : l.IsKept) (hasks : l.Asks w lookup e clock)
    {f : StoreFailure} (hfail : l.source lookup e.projectId = .error f) :
    (l.cache (w.offersAt lookup stamp e clock now).2).entries.find? e.projectId = none := by
  rw [hl.cache_of_reads stamp now hasks.1]
  refine (Cache.of_getOrCompute_error (f := f) ?_).2.2
  rw [← read, read_of_asks hasks, hfail, Except.map]

theorem IsKept.absent_of_invalidated (hl : l.IsKept) :
    (l.cache (w.invalidate p)).entries.find? p = none := by
  rw [hl.cache_invalidate, Cache.find?_invalidate, if_pos rfl]

/-! ## What is kept was looked up -/

theorem LookedUp.append {s : Moment} {v : α} (h : l.LookedUp p calls s v) {x : Moment × Call}
    (hx : x.2 ≠ .invalidate p) : l.LookedUp p (calls ++ [x]) s v := by
  obtain ⟨before, lookup, stamp, e, now, later, rfl, he, hasks, hsource, hlater⟩ := h
  refine ⟨before, lookup, stamp, e, now, later ++ [x], by simp, he, hasks, hsource, ?_⟩
  intro y hy
  rcases List.mem_append.1 hy with hy | hy
  · exact hlater y hy
  · rwa [List.mem_singleton.1 hy]

/-- An event that is told that the list was loaded has looked it up. -/
theorem lookedUp_of_loaded (hreads : l.Reads (new.after calls) lookup e clock) {v : α}
    (h : (l.read e.projectId (new.after calls) lookup clock).1 = .ok (v, true)) :
    l.LookedUp e.projectId (calls ++ [(clock, .event lookup stamp e now)]) clock v := by
  obtain ⟨hmiss, hsource⟩ := Cache.of_getOrCompute_loaded h
  exact ⟨calls, lookup, stamp, e, now, [], rfl, rfl, ⟨hreads, hmiss⟩, hsource, by simp⟩

/-- **Every entry is what the store gave when it was asked last**, at the moment that the entry
tells; its project was not invalidated since. -/
theorem IsKept.lookedUp (hl : l.IsKept) {entry : CacheEntry α}
    (h : (l.cache (new.after calls)).entries.find? p = some entry) :
    l.LookedUp p calls entry.touchedAt entry.value := by
  induction calls using List.reverseRecOn with
  | nil =>
    rw [after_nil, hl.cache_new, Cache.empty, Table.find?_empty] at h
    cases h
  | append_singleton calls x ih =>
    obtain ⟨clock, call⟩ := x
    rw [after_concat] at h
    rcases hl.step_cases (new.after calls) clock call with
      ⟨lookup, stamp, e, now, rfl, hreads, heq⟩ | ⟨hcall, heq⟩ | ⟨q, rfl, heq⟩ <;> rw [heq] at h
    · rcases Cache.find?_of_find?_getOrCompute (hl.refreshes_after calls) h with
        hold | ⟨rfl, htouched, hloaded⟩
      · exact (ih hold).append nofun
      · exact htouched ▸ lookedUp_of_loaded hreads hloaded
    · exact (ih h).append (hcall p)
    · rw [Cache.find?_invalidate] at h
      split_ifs at h with hq
      refine (ih h).append ?_
      rintro ⟨⟩
      exact hq rfl

/-! ## What an event is told by -/

/-- How old the list may be that an event is given after some calls of a new watcher. -/
structure UpToDate (l : Listing α) (calls : List (Moment × Call)) (clock : Moment) (lookup : Lookup)
    (stamp : Stamp) (e : Sighting) (now : Moment) (given : Except StoreFailure α) : Prop where
  /-- If the store is asked, the list is the one that it gives. -/
  current : l.Asks (new.after calls) lookup e clock → given = l.source lookup e.projectId
  /-- A list was looked up less than a minute ago, and the project was not invalidated since. -/
  recent : ∀ v, given = .ok v → ∃ s, clock - timeToLive < s ∧ s ≤ clock ∧
    l.LookedUp e.projectId (calls ++ [(clock, .event lookup stamp e now)]) s v
  /-- There is no list only if the store fails now. -/
  failed : ∀ f, given = .error f →
    l.Asks (new.after calls) lookup e clock ∧ l.source lookup e.projectId = .error f
  /-- After a failure, the next event of the project that reads the list asks the store again. -/
  retried : ∀ before s lookup' stamp' e' now' f rest,
    calls = before ++ (s, .event lookup' stamp' e' now') :: rest →
    e'.projectId = e.projectId → l.Asks (new.after before) lookup' e' s →
    l.source lookup' e'.projectId = .error f →
    l.Unread e.projectId (new.after (before ++ [(s, .event lookup' stamp' e' now')])) rest →
    l.Asks (new.after calls) lookup e clock
  /-- After the project was invalidated, the next event that reads the list asks the store. -/
  invalidated : ∀ before s rest, calls = before ++ (s, .invalidate e.projectId) :: rest →
    l.Unread e.projectId (new.after (before ++ [(s, .invalidate e.projectId)])) rest →
    l.Asks (new.after calls) lookup e clock
  /-- An event that does not ask the store changes nothing in what is kept of the list, and so not
  how long it is kept. -/
  unextended : ¬ l.Asks (new.after calls) lookup e clock →
    l.cache ((new.after calls).step clock (.event lookup stamp e now)) = l.cache (new.after calls)

theorem LookedUp.le (hcalls : InOrder calls clock) {s : Moment} {v : α}
    (h : l.LookedUp p calls s v) : s ≤ clock := by
  obtain ⟨before, lookup, stamp, e, now, later, rfl, -⟩ := h
  exact (List.pairwise_append.1 hcalls).2.2 s (by simp) clock (by simp)

/-- A list that is found or looked up was looked up less than a minute ago. -/
theorem IsKept.recent (hl : l.IsKept) (hcalls : InOrder calls clock)
    (hreads : l.Reads (new.after calls) lookup e clock) {v : α} {asked : Bool}
    (h : (l.read e.projectId (new.after calls) lookup clock).1 = .ok (v, asked)) :
    ∃ s, clock - timeToLive < s ∧ s ≤ clock ∧
      l.LookedUp e.projectId (calls ++ [(clock, .event lookup stamp e now)]) s v := by
  cases asked with
  | true =>
    have htime : elapsed clock clock < timeToLive := by
      rw [elapsed_of_ge le_rfl]
      decide
    exact ⟨clock, sub_lt_of_elapsed_lt htime, le_rfl, lookedUp_of_loaded hreads h⟩
  | false =>
    obtain ⟨⟨entry, hentry, htime, rfl⟩, -⟩ :=
      Cache.of_getOrCompute_found (hl.refreshes_after calls) h
    have hlooked := hl.lookedUp hentry
    rw [hl.expiry_after, Expiry.ttl] at htime
    exact ⟨entry.touchedAt, sub_lt_of_elapsed_lt htime, hlooked.le hcalls, hlooked.append nofun⟩

theorem IsKept.upToDate (hl : l.IsKept) (hcalls : InOrder calls clock)
    (hreads : l.Reads (new.after calls) lookup e clock) :
    l.UpToDate calls clock lookup stamp e now
      ((l.read e.projectId (new.after calls) lookup clock).1.map (·.1)) where
  current hasks := by
    rw [read_of_asks hasks]
    cases l.source lookup e.projectId <;> rfl
  recent v hv := by
    cases hread : (l.read e.projectId (new.after calls) lookup clock).1 with
    | error f =>
      rw [hread] at hv
      cases hv
    | ok found =>
      rw [hread] at hv
      obtain rfl : found.1 = v := Except.ok.inj hv
      exact hl.recent hcalls hreads hread
  failed f hf := by
    cases hread : (l.read e.projectId (new.after calls) lookup clock).1 with
    | error g =>
      rw [hread] at hf
      obtain rfl : g = f := Except.error.inj hf
      obtain ⟨hmiss, hsource, -⟩ := Cache.of_getOrCompute_error hread
      exact ⟨⟨hreads, hmiss⟩, hsource⟩
    | ok found =>
      rw [hread] at hf
      cases hf
  retried := by
    rintro before s lookup' stamp' e' now' f rest rfl he hasks hfail hunread
    refine asks_of_absent hreads ?_
    rw [after_append, after_cons]
    rw [after_append, after_cons, after_nil] at hunread
    exact hl.absent_after hunread (he ▸ hl.absent_of_failed hasks hfail)
  invalidated := by
    rintro before s rest rfl hunread
    refine asks_of_absent hreads ?_
    rw [after_append, after_cons]
    rw [after_append, after_cons, after_nil] at hunread
    exact hl.absent_after hunread hl.absent_of_invalidated
  unextended hasks := by
    rw [step, hl.cache_of_reads stamp now hreads]
    cases hfound : ((l.cache (new.after calls)).get e.projectId clock).1 with
    | none => exact absurd ⟨hreads, hfound⟩ hasks
    | some v =>
      refine (Cache.of_getOrCompute_found (v := v) (hl.refreshes_after calls) ?_).2
      rw [Cache.getOrCompute_of_found hfound]

end Listing

/-- **How old the webhooks and goals may be that an event is told by.** Let a new watcher be called
for any events and invalidations at readings of the clock that do not go back, with whatever the
store gives or fails to give at each of them. The webhooks that the next event acts on, and the
goals if it reads them, are then

* what the store gave for the project less than a minute ago, at a lookup that no invalidation of
  the project came after;
* what the store gives now, if the last lookup failed or the project was invalidated, and no event
  read the list since.

There are none only if the store fails now, and reading a list does not make it last longer. -/
theorem lists_upToDate (calls : List (Moment × Call)) (clock : Moment)
    (hcalls : InOrder calls clock) (lookup : Lookup) (stamp : Stamp) (e : Sighting) (now : Moment) :
    let (hooks, w) := (new.after calls).activeWebhooks lookup e.projectId clock
    webhookList.UpToDate calls clock lookup stamp e now hooks ∧
      (goalList.Reads (new.after calls) lookup e clock →
        goalList.UpToDate calls clock lookup stamp e now
          (w.activeGoals lookup e.projectId clock).1) :=
  ⟨Listing.isKept_webhookList.upToDate hcalls trivial,
    fun hreads => Listing.isKept_goalList.upToDate hcalls hreads⟩

/-- A webhook and a goal that are added after an event are what an event three nanoseconds later is
told by, if the project is invalidated in between. -/
theorem lists_upToDate_added_goal :
    let hook : Webhook := ⟨"w", "a", "https://example.com", "s", [.goalConversion], true⟩
    let goal : Goal := ⟨"g", "a", "Signup", "event", "signup", true⟩
    let nothing : Lookup := ⟨fun _ => .ok [], fun _ => .ok []⟩
    let added : Lookup := ⟨fun _ => .ok [hook], fun _ => .ok [goal]⟩
    let stamp : Stamp := ⟨default, fun _ => ""⟩
    let e : Sighting := ⟨"a", .custom, some "signup", "/"⟩
    let calls := [(0, Call.event nothing stamp e 0), (2, Call.invalidate "a")]
    InOrder calls 3 ∧ goalList.Reads (new.after calls) added e 3 ∧
      ((new.after calls).activeWebhooks added "a" 3).1 = .ok [hook] ∧
      ((new.after calls).activeGoals added "a" 3).1 = .ok [goal] := by
  intro hook goal nothing added stamp e calls
  have hcalls : InOrder calls 3 := by
    unfold InOrder
    decide
  obtain ⟨hhooks, hgoals⟩ := lists_upToDate calls 3 hcalls added stamp e 3
  have hread : ((new.after calls).activeWebhooks added "a" 3).1 = .ok [hook] :=
    hhooks.current (hhooks.invalidated [(0, .event nothing stamp e 0)] 2 [] rfl trivial)
  have hreads : goalList.Reads (new.after calls) added e 3 := ⟨[hook], hread, rfl⟩
  have htold := hgoals hreads
  exact ⟨hcalls, hreads, hread,
    htold.current (htold.invalidated [(0, .event nothing stamp e 0)] 2 [] rfl trivial)⟩

end Footfall.Watcher
