import Mathlib.Data.List.Basic
import Footfall.Proofs.Text.Split
import Footfall.Webhook.Topic

/-!
# Reading a subscription

A subscription is read piece by piece between its commas, so the topics of a text that is put
together with commas are those of its parts, one after the other (`parseList_append`,
`parseList_join`). A part that names no topic has none and is as good as absent. Since the name of a
topic has no comma and is read as that topic (`parseList_name`), what was written is read again.
-/

namespace Footfall.Topic

variable {raw : String} {t : Topic}

/-! ## Names -/

theorem parse_eq_some_iff : parse raw = some t ↔ Text.trim raw = t.name := by
  rw [parse]
  cases t <;> split_ifs <;> simp_all [name]

theorem parse_name (t : Topic) : parse t.name = some t := by
  cases t <;> decide

theorem comma_notMem_name (t : Topic) : ',' ∉ t.name.toList := by
  cases t <;> decide

/-! ## Subscriptions -/

theorem mem_parseList :
    t ∈ parseList raw ↔ ∃ piece ∈ Text.split ',' raw, Text.trim piece = t.name := by
  simp only [parseList, List.mem_filterMap, parse_eq_some_iff]

theorem parseList_append (a b : String) :
    parseList (a ++ "," ++ b) = parseList a ++ parseList b := by
  have hpieces : Text.split ',' (a ++ "," ++ b) = Text.split ',' a ++ Text.split ',' b :=
    Text.split_append ',' a b
  rw [parseList, hpieces, List.filterMap_append, ← parseList, ← parseList]

theorem parseList_of_notMem (h : ',' ∉ raw.toList) : parseList raw = (parse raw).toList := by
  rw [parseList, Text.split_of_notMem h]
  cases hparse : parse raw <;> simp [hparse]

theorem parseList_name (t : Topic) : parseList t.name = [t] := by
  rw [parseList_of_notMem t.comma_notMem_name, parse_name]
  rfl

theorem parseList_join (parts : List String) :
    parseList (Text.join "," parts) = parts.flatMap parseList := by
  induction parts using Text.join.induct with
  | case1 => decide
  | case2 s => simp [Text.join]
  | case3 s t r ih => rw [Text.join, parseList_append, ih, ← List.flatMap_cons]

/-- **What was written is read again.** For every list of topics, of any length and with any topics
twice, reading the text that is written of it gives the list. For all texts, reading one behind the
other with a comma between them gives the topics of both. So in a text that is made of names, the
known ones are read in order and all others are passed over, wherever they stand. -/
theorem parseList_reads :
    (∀ topics, parseList (join topics) = topics) ∧
      (∀ a b, parseList (a ++ "," ++ b) = parseList a ++ parseList b) ∧
      ∀ names : List String, (∀ s ∈ names, ',' ∉ s.toList) →
        parseList (Text.join "," names) = names.filterMap parse := by
  refine ⟨fun topics => ?_, parseList_append, fun names hnames => ?_⟩
  · rw [join, parseList_join, List.flatMap_map]
    simp only [parseList_name]
    exact List.flatMap_singleton' topics
  · rw [parseList_join, List.filterMap_eq_flatMap_toList]
    exact List.flatMap_congr fun s hs => parseList_of_notMem (hnames s hs)

/-- Neither an empty name nor an unknown one hides the names around it. -/
theorem parseList_reads_around_unknown :
    (∀ s ∈ ["goal_conversion", "", "page_view", " traffic_spike"], ',' ∉ s.toList) ∧
      parseList "goal_conversion,,page_view, traffic_spike" = [goalConversion, trafficSpike] := by
  have hnames : ∀ s ∈ ["goal_conversion", "", "page_view", " traffic_spike"], ',' ∉ s.toList := by
    decide
  exact ⟨hnames, (parseList_reads.2.2 _ hnames).trans (by decide)⟩

end Footfall.Topic
