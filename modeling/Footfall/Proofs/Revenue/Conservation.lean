import Mathlib.Algebra.BigOperators.Group.List.Basic
import Footfall.Proofs.Scalar
import Footfall.Proofs.Session
import Footfall.Revenue.Basic

/-!
# The views of revenue account for the same money

Revenue is shown in total, by the names of events and by traffic sources. Each view groups the
events in its own way: not at all, by name, or by session and then by the source of the session.
Grouping neither loses nor doubles anything (`flatMap_filter_distinct_perm`), so the rows of a view
add up to what was grouped.

* A session has the source of its earliest event (`sessionSource?`). The amounts that a source gets
  are those of the events whose sessions have it (`flatMap_amounts_perm`), and its sessions are
  counted once each (`countP_attributions`).
* A name gets the amounts of the events with that name (`countP_namedAmounts`). What is missing from
  the view are the amounts of events without a name (`sum_eventRows`), and the names that come after
  the twentieth.

`views_account` puts these together: the counts are those of the views that are shown, and the sums
are those before rounding, in exact rationals.
-/

namespace Footfall.Revenue

variable {α : Type} {amount : Event → Option α} {events : List Event} {id source name : String}

/-! ## What is counted -/

/-- The events that carry an amount. -/
def carriers (amount : Event → Option α) (events : List Event) : List Event :=
  events.filter fun e => (amount e).isSome

/-- The identifiers of the sessions of a list of events. -/
def sessionIds (events : List Event) : Finset String := (events.map (·.sessionId)).toFinset

/-- The names of the events that carry an amount. -/
def carriedNames (amount : Event → Option α) (events : List Event) : Finset String :=
  ((carriers amount events).filterMap (·.eventName)).toFinset

/-- The source of a session: that of its earliest event, which is the first one in the list if
several are at the same time. -/
def sessionSource? (events : List Event) (id : String) : Option String :=
  ((events.filter fun e => e.sessionId = id).argmin Event.createdAt).map trafficSource

theorem length_amounts : (amounts amount events).length = (carriers amount events).length := by
  rw [amounts, List.length_filterMap_eq_countP, List.countP_eq_length_filter, carriers]

theorem mem_sessionIds : id ∈ sessionIds events ↔ ∃ e ∈ events, e.sessionId = id := by
  simp [sessionIds]

/-- Every session has a source. -/
theorem exists_sessionSource? (h : id ∈ sessionIds events) :
    ∃ s, sessionSource? events id = some s := by
  obtain ⟨e, he, hid⟩ := mem_sessionIds.1 h
  unfold sessionSource?
  cases hfirst : (events.filter fun e => e.sessionId = id).argmin Event.createdAt with
  | none =>
    rw [List.argmin_eq_none, List.filter_eq_nil_iff] at hfirst
    exact absurd hid (by simpa using hfirst e he)
  | some first => exact ⟨trafficSource first, rfl⟩

/-! ## Sessions and their sources -/

/-- The source and the amounts of a session. -/
def attribution? (amount : Event → Option α) (events : List Event) (id : String) :
    Option (Attribution α) :=
  (sessionSource? events id).map fun s => ⟨s, amounts amount (Session.ofId events id).events⟩

theorem attributions_eq :
    attributions amount events =
      (Session.ids events).filterMap (attribution? amount events) := by
  rw [attributions, Session.group_eq, List.filterMap_map]
  refine List.filterMap_congr fun id _ => ?_
  rw [attribution?, sessionSource?, Option.map_map, ← Session.first?_ofId]
  rfl

/-- The source of a session is one of those that sessions are attributed to. -/
theorem mem_sources (hid : id ∈ sessionIds events) (h : sessionSource? events id = some source) :
    source ∈ (attributions amount events).map (·.source) := by
  have hids : id ∈ Session.ids events := mem_distinct.2 (List.mem_toFinset.1 hid)
  rw [attributions_eq]
  refine List.mem_map.2 ⟨⟨source, amounts amount (Session.ofId events id).events⟩, ?_, rfl⟩
  exact List.mem_filterMap.2 ⟨id, hids, by rw [attribution?, h]; rfl⟩

/-- Counting attributions is counting sessions. -/
theorem countP_attributions (p : Attribution α → Bool) :
    (attributions amount events).countP p =
      ((sessionIds events).filter fun id => (attribution? amount events id).any p = true).card := by
  have hany : ∀ o : Option (Attribution α), (o.map p).getD false = o.any p := by
    intro o
    cases o <;> rfl
  rw [attributions_eq, List.countP_filterMap, Session.ids, countP_distinct]
  simp only [hany]
  rfl

/-- A session has an amount exactly if one of its events carries one. -/
theorem amounts_ofId_ne_nil_iff :
    amounts amount (Session.ofId events id).events ≠ [] ↔
      id ∈ sessionIds (carriers amount events) := by
  rw [amounts, Ne, List.filterMap_eq_nil_iff, mem_sessionIds]
  push Not
  constructor
  · rintro ⟨e, he, hamount⟩
    obtain ⟨hmem, hid⟩ := Session.mem_events_ofId.1 he
    exact ⟨e, List.mem_filter.2 ⟨hmem, Option.isSome_iff_ne_none.2 hamount⟩, hid⟩
  · rintro ⟨e, he, hid⟩
    obtain ⟨hmem, hamount⟩ := List.mem_filter.1 he
    exact ⟨e, Session.mem_events_ofId.2 ⟨hmem, hid⟩, Option.isSome_iff_ne_none.1 hamount⟩

theorem sessionIds_carriers_subset : sessionIds (carriers amount events) ⊆ sessionIds events := by
  intro id hid
  obtain ⟨e, he, heq⟩ := mem_sessionIds.1 hid
  exact mem_sessionIds.2 ⟨e, List.mem_of_mem_filter he, heq⟩

/-- **The amounts of some sources** are those of the events whose sessions have such a source. -/
theorem flatMap_amounts_perm (q : String → Bool) :
    (((attributions amount events).filter fun a => q a.source).flatMap (·.amounts)).Perm
      (amounts amount (events.filter fun e => (sessionSource? events e.sessionId).any q)) := by
  have hsession : ∀ id, (((attribution? amount events id).filter fun a => q a.source).toList.flatMap
      (·.amounts)) = amounts amount ((Session.ofId events id).events.filter fun e =>
        (sessionSource? events e.sessionId).any q) := by
    intro id
    -- the events of a session have one source
    have hfilter : ((Session.ofId events id).events.filter fun e =>
        (sessionSource? events e.sessionId).any q) =
        (Session.ofId events id).events.filter fun _ => (sessionSource? events id).any q :=
      List.filter_congr fun e he => by rw [(Session.mem_events_ofId.1 he).2]
    rw [hfilter, attribution?]
    cases sessionSource? events id with
    | none => simp [amounts]
    | some s => cases hs : q s <;> simp [amounts, hs, Option.filter_some]
  rw [attributions_eq, List.filter_filterMap, List.filterMap_eq_flatMap_toList, List.flatMap_assoc,
    List.flatMap_congr fun id _ => hsession id]
  have hgroup := (Session.flatMap_group_perm events).filter fun e =>
    (sessionSource? events e.sessionId).any q
  rw [Session.group_eq, List.flatMap_map, List.filter_flatMap] at hgroup
  have hamounts := hgroup.filterMap amount
  rwa [List.filterMap_flatMap] at hamounts

/-- All sessions together have the amounts of all events. -/
theorem flatMap_attributions_perm :
    ((attributions amount events).flatMap (·.amounts)).Perm (amounts amount events) := by
  have hperm : (((attributions amount events).filter fun _ => true).flatMap (·.amounts)).Perm
      (amounts amount
        (events.filter fun e => (sessionSource? events e.sessionId).any fun _ => true)) :=
    flatMap_amounts_perm fun _ => true
  have hall : (events.filter fun e => (sessionSource? events e.sessionId).any fun _ => true) =
      events := by
    refine List.filter_eq_self.2 fun e he => ?_
    obtain ⟨s, hs⟩ := exists_sessionSource? (mem_sessionIds.2 ⟨e, he, rfl⟩)
    rw [hs]
    rfl
  rwa [List.filter_true, hall] at hperm

/-- Grouping sessions by their sources neither loses nor doubles an amount. -/
theorem flatMap_sources_perm (all : List (Attribution α)) :
    ((distinct (all.map (·.source))).flatMap fun s =>
      (all.filter fun a => a.source = s).flatMap (·.amounts)).Perm (all.flatMap (·.amounts)) := by
  rw [← List.flatMap_assoc]
  exact (flatMap_filter_distinct_perm (·.source) all).flatMap_right (·.amounts)

/-! ## The rows of sources -/

/-- A session counts for its source. -/
theorem any_source_iff :
    ((attribution? amount events id).any fun a => decide (a.source = source)) = true ↔
      sessionSource? events id = some source := by
  rw [attribution?]
  cases sessionSource? events id <;> simp

/-- The sessions that count as converting are those in which an event carries an amount. -/
theorem mem_sessionIds_carriers_iff :
    id ∈ sessionIds events ∧
        ((attribution? amount events id).any fun a => !a.amounts.isEmpty) = true ↔
      id ∈ sessionIds (carriers amount events) := by
  have hany : id ∈ sessionIds events →
      (((attribution? amount events id).any fun a => !a.amounts.isEmpty) = true ↔
        id ∈ sessionIds (carriers amount events)) := by
    intro hid
    obtain ⟨s, hs⟩ := exists_sessionSource? hid
    rw [← amounts_ofId_ne_nil_iff, attribution?, hs]
    simp
  rw [and_congr_right hany]
  exact and_iff_right_of_imp fun hid => sessionIds_carriers_subset hid

/-- Every session is attributed to a source. -/
theorem length_attributions : (attributions amount events).length = (sessionIds events).card := by
  rw [← List.countP_true, countP_attributions, Finset.filter_true_of_mem]
  intro id hid
  obtain ⟨s, hs⟩ := exists_sessionSource? hid
  rw [attribution?, hs]
  rfl

theorem countP_converting :
    ((attributions amount events).countP fun a => !a.amounts.isEmpty) =
      (sessionIds (carriers amount events)).card := by
  rw [countP_attributions]
  congr 1
  ext id
  rw [Finset.mem_filter, mem_sessionIds_carriers_iff]

section Sources

variable [Scalar α]

/-- The row of a source. -/
def sourceRow (all : List (Attribution α)) (source : String) : SourceRow α :=
  let own := all.filter fun a => a.source = source
  let converting := own.countP fun a => !a.amounts.isEmpty
  { source
    revenue := total (own.map fun a => total a.amounts)
    transactions := (own.flatMap fun a => a.amounts).length
    sessions := own.length
    convertingSessions := converting
    conversionRate := Scalar.percent converting own.length }

theorem foldl_add_sourceRow (r : SourceRow α) (all : List (Attribution α)) :
    all.foldl SourceRow.add r =
      { r with
        revenue := all.foldl (fun t a => t + total a.amounts) r.revenue
        transactions := r.transactions + (all.flatMap fun a => a.amounts).length
        sessions := r.sessions + all.length
        convertingSessions := r.convertingSessions + all.countP fun a => !a.amounts.isEmpty } := by
  induction all generalizing r with
  | nil => rfl
  | cons a rest ih =>
    rw [List.foldl_cons, ih, SourceRow.add]
    cases hempty : a.amounts.isEmpty <;> simp [hempty] <;> omega

/-- Every source has its row. -/
theorem sourceRows_eq :
    sourceRows amount events =
      (distinct ((attributions amount events).map (·.source))).map
        (sourceRow (attributions amount events)) := by
  rw [sourceRows, gather_eq, List.map_map]
  refine List.map_congr_left fun s _ => ?_
  simp only [Function.comp_apply, rowOf, foldl_add_sourceRow, SourceRow.rated, Nat.zero_add,
    sourceRow, total, List.foldl_map]

theorem map_source_sourceRows :
    (sourceRows amount events).map (·.source) =
      distinct ((attributions amount events).map (·.source)) := by
  rw [sourceRows_eq, List.map_map]
  exact List.map_id _

/-- A source counts the sessions that have it. -/
theorem sessions_sourceRow :
    (sourceRow (attributions amount events) source).sessions =
      ((sessionIds events).filter fun id => sessionSource? events id = some source).card := by
  change ((attributions amount events).filter fun a => decide (a.source = source)).length = _
  rw [← List.countP_eq_length_filter, countP_attributions]
  simp only [any_source_iff]

/-- A source counts those of its sessions as converting that have an amount. -/
theorem converting_sourceRow :
    (sourceRow (attributions amount events) source).convertingSessions =
      ((sessionIds (carriers amount events)).filter fun id =>
        sessionSource? events id = some source).card := by
  change ((attributions amount events).filter fun a => decide (a.source = source)).countP
    (fun a => !a.amounts.isEmpty) = _
  rw [List.countP_filter, countP_attributions]
  congr 1
  ext id
  have hboth : ∀ o : Option (Attribution α),
      (o.any fun a => !a.amounts.isEmpty && decide (a.source = source)) = true ↔
        (o.any fun a => !a.amounts.isEmpty) = true ∧
          (o.any fun a => decide (a.source = source)) = true := by
    intro o
    cases o <;> simp
  rw [Finset.mem_filter, Finset.mem_filter, hboth, any_source_iff, ← and_assoc,
    mem_sessionIds_carriers_iff]

/-- A source counts the events with an amount whose sessions have it. -/
theorem transactions_sourceRow :
    (sourceRow (attributions amount events) source).transactions =
      (carriers amount events).countP fun e => sessionSource? events e.sessionId = some source := by
  refine (flatMap_amounts_perm fun s => decide (s = source)).length_eq.trans ?_
  rw [length_amounts, carriers, carriers, List.countP_eq_length_filter, List.filter_filter,
    List.filter_filter]
  congr 1
  refine List.filter_congr fun e _ => ?_
  rw [Bool.and_comm]
  cases sessionSource? events e.sessionId <;> simp

/-- The sources have all sessions together. -/
theorem sum_sessions :
    ((sourceRows amount events).map (·.sessions)).sum = (sessionIds events).card := by
  rw [← length_attributions, sourceRows_eq, List.map_map,
    ← (flatMap_filter_distinct_perm (·.source) (attributions amount events)).length_eq,
    List.length_flatMap]
  rfl

theorem sum_convertingSessions :
    ((sourceRows amount events).map (·.convertingSessions)).sum =
      (sessionIds (carriers amount events)).card := by
  rw [← countP_converting, sourceRows_eq, List.map_map,
    ← (flatMap_filter_distinct_perm (·.source) (attributions amount events)).countP_eq,
    List.countP_flatMap]
  rfl

theorem sum_transactions :
    ((sourceRows amount events).map (·.transactions)).sum = (amounts amount events).length := by
  rw [← flatMap_attributions_perm.length_eq, sourceRows_eq, List.map_map,
    ← (flatMap_sources_perm (attributions amount events)).length_eq, List.length_flatMap]
  rfl

end Sources

/-! ## The rows of names -/

theorem map_fst_namedAmounts :
    (namedAmounts amount events).map (·.1) = (carriers amount events).filterMap (·.eventName) := by
  rw [namedAmounts, List.map_filterMap, carriers, List.filterMap_filter]
  refine List.filterMap_congr fun e _ => ?_
  cases amount e <;> cases e.eventName <;> rfl

theorem map_snd_namedAmounts :
    (namedAmounts amount events).map (·.2) =
      amounts amount (events.filter fun e => e.eventName.isSome) := by
  rw [namedAmounts, List.map_filterMap, amounts, List.filterMap_filter]
  refine List.filterMap_congr fun e _ => ?_
  cases amount e <;> cases e.eventName <;> rfl

/-- A name is carried by the events with an amount that have it. -/
theorem countP_namedAmounts :
    ((namedAmounts amount events).countP fun p => p.1 = name) =
      (carriers amount events).countP fun e => e.eventName = some name := by
  rw [namedAmounts, List.countP_filterMap, carriers, List.countP_filter]
  refine List.countP_congr fun e _ => ?_
  cases amount e <;> cases e.eventName <;> simp

/-- If all events that carry an amount have a name, the amounts of the named events are all. -/
theorem amounts_of_named (h : ∀ e ∈ carriers amount events, e.eventName.isSome = true) :
    amounts amount (events.filter fun e => e.eventName.isSome) = amounts amount events := by
  rw [amounts, List.filterMap_filter]
  refine List.filterMap_congr fun e he => ?_
  cases hamount : amount e with
  | none => rw [ite_self]
  | some a => exact if_pos (h e (List.mem_filter.2 ⟨he, by rw [hamount]; rfl⟩))

section Names

variable [Scalar α]

/-- The row of an event name. -/
def eventRow (named : List (String × α)) (name : String) : EventRow α :=
  let own := (named.filter fun p => p.1 = name).map (·.2)
  ⟨name, total own, own.length⟩

theorem foldl_add_eventRow (r : EventRow α) (named : List (String × α)) :
    named.foldl EventRow.add r =
      { r with
        revenue := named.foldl (fun t p => t + p.2) r.revenue
        transactions := r.transactions + named.length } := by
  induction named generalizing r with
  | nil => rfl
  | cons p rest ih =>
    rw [List.foldl_cons, ih, EventRow.add]
    simp
    omega

/-- Every event name with an amount has its row. -/
theorem eventRows_eq :
    eventRows amount events =
      (distinct ((namedAmounts amount events).map (·.1))).map
        (eventRow (namedAmounts amount events)) := by
  rw [eventRows, gather_eq]
  refine List.map_congr_left fun n _ => ?_
  rw [rowOf, foldl_add_eventRow, Nat.zero_add, eventRow, total, List.foldl_map, List.length_map]

theorem map_name_eventRows :
    (eventRows amount events).map (·.name) =
      distinct ((namedAmounts amount events).map (·.1)) := by
  rw [eventRows_eq, List.map_map]
  exact List.map_id _

theorem length_eventRows :
    (eventRows amount events).length = (carriedNames amount events).card := by
  rw [eventRows_eq, List.length_map, carriedNames, ← map_fst_namedAmounts, length_distinct]

theorem transactions_eventRow :
    (eventRow (namedAmounts amount events) name).transactions =
      (carriers amount events).countP fun e => e.eventName = some name := by
  rw [← countP_namedAmounts, List.countP_eq_length_filter]
  exact List.length_map _

theorem sum_eventRows_transactions :
    ((eventRows amount events).map (·.transactions)).sum =
      (amounts amount (events.filter fun e => e.eventName.isSome)).length := by
  have hperm := (flatMap_filter_distinct_perm (·.1) (namedAmounts amount events)).map (·.2)
  rw [eventRows_eq, List.map_map, ← map_snd_namedAmounts, ← hperm.length_eq, List.map_flatMap,
    List.length_flatMap]
  rfl

end Names

/-! ## Sums in exact rationals -/

section Exact

variable {amount : Event → Option ℚ}

theorem total_rat (xs : List ℚ) : total xs = xs.sum := List.sum_eq_foldl.symm

theorem sum_flatMap {β : Type} (xs : List β) (f : β → List ℚ) :
    (xs.flatMap f).sum = (xs.map fun x => (f x).sum).sum := by
  rw [List.flatMap_def, List.sum_flatten, List.map_map]
  rfl

/-- The sources have all amounts together. -/
theorem sum_revenue_sourceRows :
    ((sourceRows amount events).map (·.revenue)).sum = (amounts amount events).sum := by
  have hrow : ∀ (all : List (Attribution ℚ)) s, (sourceRow all s).revenue =
      ((all.filter fun a => a.source = s).flatMap (·.amounts)).sum := by
    intro all s
    rw [sum_flatMap]
    simp only [sourceRow, total_rat]
  rw [← flatMap_attributions_perm.sum_eq, sourceRows_eq, List.map_map,
    ← (flatMap_sources_perm (attributions amount events)).sum_eq, sum_flatMap]
  exact congrArg List.sum (List.map_congr_left fun s _ => hrow _ s)

/-- The names have the amounts of the named events together. -/
theorem sum_revenue_eventRows :
    ((eventRows amount events).map (·.revenue)).sum =
      (amounts amount (events.filter fun e => e.eventName.isSome)).sum := by
  have hperm := (flatMap_filter_distinct_perm (·.1) (namedAmounts amount events)).map (·.2)
  rw [← map_snd_namedAmounts, eventRows_eq, List.map_map, ← hperm.sum_eq, List.map_flatMap,
    sum_flatMap]
  exact congrArg List.sum (List.map_congr_left fun n _ => total_rat _)

/-- What the names do not have are the amounts of the other events. -/
theorem sum_amounts_filter :
    (amounts amount (events.filter fun e => e.eventName.isSome)).sum +
      (amounts amount (events.filter fun e => !e.eventName.isSome)).sum =
        (amounts amount events).sum := by
  have hsplit := List.filter_append_perm (fun e : Event => e.eventName.isSome) events
  have hperm := hsplit.filterMap amount
  rw [List.filterMap_append] at hperm
  rw [← List.sum_append]
  exact hperm.sum_eq

end Exact

/-! ## The views that are shown -/

/-- Taking twenty of at most twenty rows takes all. -/
theorem take_sortByDesc_perm [Scalar α] {γ : Type} [LinearOrder γ] (key : EventRow α → γ)
    (h : (carriedNames amount events).card ≤ 20) :
    ((sortByDesc key (eventRows amount events)).take 20).Perm (eventRows amount events) := by
  have hperm := sortByDesc_perm key (eventRows amount events)
  rwa [List.take_of_length_le]
  rwa [hperm.length_eq, length_eventRows]

theorem bySource_perm (events : List Event) :
    (bySource events).Perm ((sourceRows Event.revenue? events).map SourceRow.rounded) :=
  List.mergeSort_perm _ _

/-- **The view by traffic source.** Every session counts in one row, that of its source, and the
rows together have every session and every transaction once. -/
structure SourceAccounts (events : List Event) (rows : List (SourceRow Float)) : Prop where
  sources : (rows.map (·.source)).Nodup
  attributed : ∀ id ∈ sessionIds events,
    ∃! r, r ∈ rows ∧ sessionSource? events id = some r.source
  sessions : ∀ r ∈ rows, r.sessions =
    ((sessionIds events).filter fun id => sessionSource? events id = some r.source).card
  converting : ∀ r ∈ rows, r.convertingSessions =
    ((sessionIds (carriers Event.revenue? events)).filter fun id =>
      sessionSource? events id = some r.source).card
  transactions : ∀ r ∈ rows, r.transactions =
    (carriers Event.revenue? events).countP fun e =>
      sessionSource? events e.sessionId = some r.source
  converting_le : ∀ r ∈ rows, r.convertingSessions ≤ r.sessions
  sum_sessions : (rows.map (·.sessions)).sum = (sessionIds events).card
  sum_converting : (rows.map (·.convertingSessions)).sum =
    (sessionIds (carriers Event.revenue? events)).card
  sum_transactions : (rows.map (·.transactions)).sum = (metrics events).transactions

/-- **The view by event name.** A row counts the events with its name that carry revenue. If no more
names than are shown carry revenue and every event with revenue has a name, the rows together have
every transaction once. -/
structure NameAccounts (events : List Event) (rows : List (EventRow Float)) : Prop where
  names : (rows.map (·.name)).Nodup
  transactions : ∀ r ∈ rows, r.transactions =
    (carriers Event.revenue? events).countP fun e => e.eventName = some r.name
  sum_transactions : (carriedNames Event.revenue? events).card ≤ 20 →
    (∀ e ∈ carriers Event.revenue? events, e.eventName.isSome = true) →
      (rows.map (·.transactions)).sum = (metrics events).transactions

theorem sourceAccounts (events : List Event) : SourceAccounts events (bySource events) := by
  have hperm := bySource_perm events
  have hsources : ((bySource events).map (·.source)).Perm
      (distinct ((attributions Event.revenue? events).map (·.source))) := by
    rw [← map_source_sourceRows]
    have hmap := hperm.map (·.source)
    rwa [List.map_map] at hmap
  have hnodup : ((bySource events).map (·.source)).Nodup :=
    hsources.nodup_iff.2 (nodup_distinct _)
  have hrow : ∀ r ∈ bySource events,
      ∃ s, r = (sourceRow (attributions Event.revenue? events) s).rounded := by
    intro r hr
    obtain ⟨r', hr', rfl⟩ := List.mem_map.1 (hperm.mem_iff.1 hr)
    rw [sourceRows_eq] at hr'
    obtain ⟨s, -, rfl⟩ := List.mem_map.1 hr'
    exact ⟨s, rfl⟩
  have hsessions : ∀ r ∈ bySource events, r.sessions =
      ((sessionIds events).filter fun id => sessionSource? events id = some r.source).card := by
    intro r hr
    obtain ⟨s, rfl⟩ := hrow r hr
    exact sessions_sourceRow
  have hconverting : ∀ r ∈ bySource events, r.convertingSessions =
      ((sessionIds (carriers Event.revenue? events)).filter fun id =>
        sessionSource? events id = some r.source).card := by
    intro r hr
    obtain ⟨s, rfl⟩ := hrow r hr
    exact converting_sourceRow
  refine ⟨hnodup, fun id hid => ?_, hsessions, hconverting, fun r hr => ?_, fun r hr => ?_, ?_,
    ?_, ?_⟩
  · obtain ⟨s, hs⟩ := exists_sessionSource? hid
    have hmem := hsources.mem_iff.2 (mem_distinct.2 (mem_sources hid hs))
    obtain ⟨r, hr, rfl⟩ := List.mem_map.1 hmem
    refine ⟨r, ⟨hr, hs⟩, ?_⟩
    rintro r' ⟨hr', hs'⟩
    exact List.inj_on_of_nodup_map hnodup hr' hr (Option.some.inj (hs'.symm.trans hs))
  · obtain ⟨s, rfl⟩ := hrow r hr
    exact transactions_sourceRow
  · rw [hsessions r hr, hconverting r hr]
    exact Finset.card_le_card (Finset.filter_subset_filter _ sessionIds_carriers_subset)
  · rw [(hperm.map _).sum_eq, List.map_map]
    exact sum_sessions
  · rw [(hperm.map _).sum_eq, List.map_map]
    exact sum_convertingSessions
  · rw [(hperm.map _).sum_eq, List.map_map]
    exact sum_transactions

theorem nameAccounts (events : List Event) : NameAccounts events (byEvent events) := by
  let key : EventRow Float → Int := fun r => orderKey r.revenue
  have hnames : (byEvent events).map (·.name) =
      ((sortByDesc key (eventRows Event.revenue? events)).take 20).map (·.name) := by
    rw [byEvent, List.map_map]
    rfl
  have hperm := sortByDesc_perm key (eventRows Event.revenue? events)
  refine ⟨?_, fun r hr => ?_, fun hfew hnamed => ?_⟩
  · rw [hnames]
    refine List.Nodup.sublist ((List.take_sublist _ _).map _) ?_
    rw [(hperm.map _).nodup_iff, map_name_eventRows]
    exact nodup_distinct _
  · obtain ⟨r', hr', rfl⟩ := List.mem_map.1 hr
    have hrow := hperm.mem_iff.1 (List.mem_of_mem_take hr')
    rw [eventRows_eq] at hrow
    obtain ⟨n, -, rfl⟩ := List.mem_map.1 hrow
    exact transactions_eventRow
  · rw [byEvent, List.map_map]
    have hall := ((take_sortByDesc_perm key hfew).map (·.transactions)).sum_eq
    rw [sum_eventRows_transactions, amounts_of_named hnamed] at hall
    exact hall

/-- **The views of revenue account for the same money.** In the view by traffic source every session
counts in one row, and in the view by event name every named event with revenue does, unless its
name comes after the twentieth (`SourceAccounts`, `NameAccounts`). In exact numbers, whatever the
events carry:

* the revenue of the sources adds up to that of the events;
* so does the revenue of the names together with that of the events without a name;
* and so does the revenue of the names that are shown, if no more names carry revenue and every
  event with revenue has a name. -/
theorem views_account (events : List Event) :
    SourceAccounts events (bySource events) ∧ NameAccounts events (byEvent events) ∧
      (metrics events).transactions = (carriers Event.revenue? events).length ∧
      ∀ amount : Event → Option ℚ,
        ((sourceRows amount events).map (·.revenue)).sum = (totals amount events).revenue ∧
        ((eventRows amount events).map (·.revenue)).sum +
            (amounts amount (events.filter fun e => !e.eventName.isSome)).sum =
          (totals amount events).revenue ∧
        ((carriedNames amount events).card ≤ 20 →
          (∀ e ∈ carriers amount events, e.eventName.isSome = true) →
            (((sortByDesc (·.revenue) (eventRows amount events)).take 20).map (·.revenue)).sum =
              (totals amount events).revenue) := by
  refine ⟨sourceAccounts events, nameAccounts events, length_amounts, fun amount => ?_⟩
  have htotal : (totals amount events).revenue = (amounts amount events).sum := total_rat _
  rw [htotal]
  refine ⟨sum_revenue_sourceRows, ?_, fun hfew hnamed => ?_⟩
  · rw [sum_revenue_eventRows, sum_amounts_filter]
  · rw [((take_sortByDesc_perm _ hfew).map _).sum_eq, sum_revenue_eventRows,
      amounts_of_named hnamed]

/-- A page view and two orders in two sessions: both orders are among the names, and what they carry
adds up. -/
theorem views_account_two_orders :
    let order (session : String) : Event :=
      { Event.bare "shop" .custom "/cart" session "visitor" ⟨20, 0⟩ with
        eventName := some "order"
        properties := some "\x7b\"revenue\":6\x7d" }
    let events := [Event.bare "shop" .pageview "/" "a" "visitor" ⟨10, 0⟩, order "a", order "b"]
    let amount (e : Event) : Option ℚ := if e.kind = .custom then some 6 else none
    (∀ e ∈ carriers Event.revenue? events, e.eventName.isSome = true) ∧
      ((byEvent events).map (·.transactions)).sum = (metrics events).transactions ∧
      (((sortByDesc (·.revenue) (eventRows amount events)).take 20).map (·.revenue)).sum = 12 := by
  intro order events amount
  let page := Event.bare "shop" .pageview "/" "a" "visitor" ⟨10, 0⟩
  have hfew : ∀ {α : Type} (f : Event → Option α), (carriedNames f events).card ≤ 20 := by
    intro α f
    have hlength : ((carriers f events).filterMap (·.eventName)).length ≤ 3 :=
      (List.length_filterMap_le ..).trans (List.length_filter_le ..)
    exact (List.toFinset_card_le _).trans (hlength.trans (by decide))
  have hnamed : ∀ {α : Type} (f : Event → Option α), f page = none →
      ∀ e ∈ carriers f events, e.eventName.isSome = true := by
    intro α f hpage e he
    obtain ⟨hmem, hcarries⟩ := List.mem_filter.1 he
    have hcases : e = page ∨ e = order "a" ∨ e = order "b" := by
      simpa [events] using hmem
    rcases hcases with rfl | rfl | rfl
    · rw [hpage] at hcarries
      cases hcarries
    · rfl
    · rfl
  have haccount := views_account events
  refine ⟨hnamed _ rfl, haccount.2.1.sum_transactions (hfew _) (hnamed _ rfl), ?_⟩
  rw [(haccount.2.2.2 amount).2.2 (hfew amount) (hnamed amount rfl)]
  decide +kernel

end Footfall.Revenue
