import FormLetter.Proofs.ByteOrder
import FormLetter.Proofs.CountedEvents
import FormLetter.Proofs.SampleLines
import Mathlib.Data.List.Induction

/-!
# The metrics are totals

Events are recorded one after the other; a family is registered with the first
event that uses it, and the counter of an endpoint comes about with the first of
its events. All the same the metrics do not tell the order of the events: each
number is a total over all of them, and each family is registered if one of them
uses it.

Specification: `Metrics.totals` are the metrics computed from all events at
once, and `Metrics.IsTally` says what metrics have to tell of some events.

Results:

* `registered_register`: what an event uses is registered with it.
* `record_totals`: one more event makes the totals with this event.
* `recordAll_zero`: so the metrics after some events are their totals.
* `totals_perm`: totals do not depend on the order of the events.
* `metrics_are_totals`: the metrics are a tally of the events, and the exposition
  shows it, whatever the order.
-/

namespace FormLetter

/-! ## Specification -/

namespace Event

/-- Whether a record was built. -/
@[simp] def isBuilt : Event → Bool
  | recordBuilt _ => true
  | _ => false

/-- Whether a record was built for a malformed recipient. -/
@[simp] def isMalformed : Event → Bool
  | recordBuilt malformed => malformed
  | _ => false

/-- The endpoint for which a message was resolved. -/
@[simp] def endpoint? : Event → Option Text
  | messageResolved endpoint _ => some endpoint
  | _ => none

/-- The number of unknown variables of a message. -/
@[simp] def unknown : Event → ℕ
  | messageResolved _ unknown => unknown
  | _ => 0

/-- The size of a batch that was merged. -/
@[simp] def batchSize? : Event → Option ℕ
  | batchMerged size => some size
  | _ => none

end Event

/-- Whether a family is used when an event is counted. -/
def Family.isUsedBy : Family → Event → Bool
  | recordsBuilt, e => e.isBuilt
  | malformedRecipients, e => e.isMalformed
  | messagesResolved, e => e.endpoint?.isSome
  | unknownPlaceholders, e => e.endpoint?.isSome
  | batchSize, e => e.batchSize?.isSome

/-- The distribution of some sizes. -/
def Histogram.ofSizes (bounds sizes : List ℕ) : Histogram where
  buckets := bounds.map fun b => (b, sizes.countP (· ≤ b))
  sum := sizes.sum
  count := sizes.length

/-- How often each label comes in a list, in the order of the labels. -/
def Counters.ofLabels (labels : List Text) : List (Text × ℕ) :=
  (Names.ofList labels).map fun label => (label, labels.count label)

namespace Metrics

/-- The metrics that some events add up to, where some families have been used
before. -/
def totals (used : List Family) (events : List Event) : Metrics where
  registered := Family.all.filter fun f => used.contains f || events.any f.isUsedBy
  recordsBuilt := events.countP Event.isBuilt
  malformedRecipients := events.countP Event.isMalformed
  messagesResolved := Counters.ofLabels (events.filterMap Event.endpoint?)
  unknownPlaceholders := (events.map Event.unknown).sum
  batchSizes := .ofSizes batchBounds (events.filterMap Event.batchSize?)

/-- What metrics tell of some events, where some families have been used before. -/
structure IsTally (m : Metrics) (used : List Family) (events : List Event) : Prop where
  /-- A family is registered if it has been used before or an event uses it. -/
  mem_registered : ∀ f, f ∈ m.registered ↔ f ∈ used ∨ ∃ e ∈ events, f.isUsedBy e = true
  /-- Families are in the order of their names, and so none comes twice. -/
  registered_sublist : m.registered.Sublist Family.all
  recordsBuilt : m.recordsBuilt = events.countP Event.isBuilt
  malformedRecipients : m.malformedRecipients = events.countP Event.isMalformed
  malformed_le : m.malformedRecipients ≤ m.recordsBuilt
  mem_messagesResolved : ∀ endpoint n, (endpoint, n) ∈ m.messagesResolved ↔
    n = events.countP (fun e => e.endpoint? == some endpoint) ∧ 0 < n
  /-- Endpoints are in the order of their bytes, and so none comes twice. -/
  labels : (m.messagesResolved.map fun counter => Text.utf8 counter.1).Pairwise (· < ·)
  unknownPlaceholders : m.unknownPlaceholders = (events.map Event.unknown).sum
  buckets : m.batchSizes.buckets = batchBounds.map fun bound =>
    (bound, (events.filterMap Event.batchSize?).countP (· ≤ bound))
  /-- Buckets do not decrease, up to the last one of all batches. -/
  cumulative : (m.batchSizes.buckets.map Prod.snd ++ [m.batchSizes.count]).Pairwise (· ≤ ·)
  sum : m.batchSizes.sum = (events.filterMap Event.batchSize?).sum
  count : m.batchSizes.count = (events.filterMap Event.batchSize?).length

end Metrics

/-! ## One more event -/

theorem Names.ofList_concat (labels : List Text) (label : Text) :
    ofList (labels ++ [label]) = insert label (ofList labels) := by
  refine eq_of_mem_iff (pairwise_ofList _) (pairwise_insert (pairwise_ofList _)) fun name => ?_
  rw [mem_insert, mem_ofList, mem_ofList, List.mem_append, List.mem_singleton, or_comm]

namespace Counters

/-- Counters without a repeated label are told by their labels and by looking up. -/
theorem map_lookup {counters : List (Text × ℕ)} (h : (counters.map Prod.fst).Nodup) :
    ((counters.map Prod.fst).map fun label => (label, (counters.lookup label).getD 0)) =
      counters := by
  induction counters with
  | nil => rfl
  | cons counter rest ih =>
    obtain ⟨label, n⟩ := counter
    obtain ⟨hlabel, hrest⟩ := List.nodup_cons.mp h
    rw [List.map_cons, List.map_cons, Variables.lookup_cons, if_pos rfl]
    congr 1
    refine (List.map_congr_left fun name hname => ?_).trans (ih hrest)
    have hne : name ≠ label := by
      rintro rfl
      exact hlabel hname
    rw [Variables.lookup_cons, if_neg hne]

theorem map_fst_ofLabels (labels : List Text) :
    (ofLabels labels).map Prod.fst = Names.ofList labels := by
  rw [ofLabels, List.map_map]
  exact List.map_id _

theorem lookup_ofLabels (labels : List Text) (label : Text) :
    ((ofLabels labels).lookup label).getD 0 = labels.count label := by
  by_cases hmem : label ∈ Names.ofList labels
  · rw [ofLabels, List.lookup_graph _ hmem, Option.getD_some]
  · have hnone : (ofLabels labels).lookup label = none :=
      Variables.lookup_eq_none_iff.mpr (by rwa [map_fst_ofLabels])
    have hcount : labels.count label = 0 :=
      List.count_eq_zero_of_not_mem fun h => hmem (Names.mem_ofList.mpr h)
    rw [hnone, hcount, Option.getD_none]

/-- A counter goes up by one with one more label, and comes about with the first. -/
theorem bump_ofLabels (labels : List Text) (label : Text) :
    bump label (ofLabels labels) = ofLabels (labels ++ [label]) := by
  have hkeys : (bump label (ofLabels labels)).map Prod.fst = Names.ofList (labels ++ [label]) := by
    rw [map_fst_bump, map_fst_ofLabels, Names.ofList_concat]
  have hsorted : ((ofLabels labels).map Prod.fst).Pairwise (· < ·) := by
    rw [map_fst_ofLabels]
    exact Names.pairwise_ofList labels
  have hnodup : ((bump label (ofLabels labels)).map Prod.fst).Nodup := by
    rw [hkeys]
    exact Names.nodup_of_pairwise (Names.pairwise_ofList _)
  rw [← map_lookup hnodup, hkeys]
  refine List.map_congr_left fun name _ => ?_
  rw [lookup_bump hsorted, lookup_ofLabels, List.count_append, List.count_singleton]
  by_cases h : name = label
  · rw [if_pos h, if_pos (beq_iff_eq.mpr h.symm)]
  · rw [if_neg h, if_neg fun he => h (beq_iff_eq.mp he).symm]

end Counters

theorem Histogram.observe_ofSizes (bounds sizes : List ℕ) (size : ℕ) :
    (ofSizes bounds sizes).observe size = ofSizes bounds (sizes ++ [size]) := by
  rw [observe, ofSizes, ofSizes, List.map_map, List.sum_append, List.sum_singleton,
    List.length_append, List.length_singleton]
  congr 1
  refine List.map_congr_left fun b _ => ?_
  rw [Function.comp_apply, List.countP_append, List.countP_singleton]
  by_cases h : size ≤ b <;> simp [h]

/-! ## Families -/

theorem Family.mem_all (f : Family) : f ∈ all := by cases f <;> decide

theorem Event.contains_families (e : Event) (f : Family) :
    e.families.contains f = f.isUsedBy e := by
  cases e with
  | recordBuilt malformed => cases malformed <;> cases f <;> rfl
  | _ => cases f <;> rfl

namespace Metrics

/-- What an event uses is registered with it. -/
theorem registered_register (used : List Family) (events : List Event) (e : Event) :
    ((totals used events).register e.families).registered =
      (totals used (events ++ [e])).registered := by
  have hregistered (f : Family) : (totals used events).registered.contains f =
      (used.contains f || events.any f.isUsedBy) := by
    rw [Bool.eq_iff_iff, List.contains_iff_mem, totals, List.mem_filter]
    exact and_iff_right f.mem_all
  show Family.all.filter (fun f =>
      (totals used events).registered.contains f || e.families.contains f) =
    Family.all.filter fun f => used.contains f || (events ++ [e]).any f.isUsedBy
  refine List.filter_congr fun f _ => ?_
  rw [hregistered, e.contains_families, List.any_append, Bool.or_assoc]
  simp

/-- Recording an event adds it to the totals. -/
theorem record_totals (used : List Family) (events : List Event) (e : Event) :
    (totals used events).record e = totals used (events ++ [e]) := by
  have hregister : (totals used events).register e.families =
      { totals used events with registered := (totals used (events ++ [e])).registered } := by
    rw [← registered_register]
    rfl
  rw [record, hregister, totals, totals, List.countP_append, List.countP_append,
    List.filterMap_append, List.map_append, List.sum_append, List.filterMap_append]
  cases e with
  | recordBuilt malformed =>
    rw [count]
    cases malformed <;> simp [List.filterMap_cons]
  | messageResolved endpoint unknown =>
    rw [count, Counters.bump_ofLabels]
    simp [List.filterMap_cons]
  | batchMerged size =>
    rw [count, Histogram.observe_ofSizes]
    simp [List.filterMap_cons]

theorem recordAll_zero (used : List Family) (events : List Event) :
    (zero used).recordAll events = totals used events := by
  induction events using List.reverseRecOn with
  | nil =>
    rw [totals]
    simp only [List.any_nil, Bool.or_false]
    rfl
  | append_singleton events e ih =>
    rw [recordAll, List.foldl_append, List.foldl_cons, List.foldl_nil, ← record_totals, ← ih,
      recordAll]

end Metrics

/-! ## Another order -/

theorem Counters.ofLabels_perm {labels others : List Text} (h : labels.Perm others) :
    ofLabels labels = ofLabels others := by
  have hnames : Names.ofList labels = Names.ofList others := by
    refine Names.eq_of_mem_iff (Names.pairwise_ofList _) (Names.pairwise_ofList _) fun name => ?_
    rw [Names.mem_ofList, Names.mem_ofList, h.mem_iff]
  rw [ofLabels, hnames, ofLabels]
  exact List.map_congr_left fun label _ => by rw [h.count_eq]

theorem Histogram.ofSizes_perm {bounds sizes others : List ℕ} (h : sizes.Perm others) :
    ofSizes bounds sizes = ofSizes bounds others := by
  rw [ofSizes, h.sum_eq, h.length_eq, ofSizes]
  simp only [h.countP_eq]

namespace Metrics

theorem totals_perm (used : List Family) {events others : List Event} (h : events.Perm others) :
    totals used events = totals used others := by
  have hused (f : Family) : events.any f.isUsedBy = others.any f.isUsedBy := h.any_eq
  rw [totals, h.countP_eq, h.countP_eq, (h.map Event.unknown).sum_eq,
    Counters.ofLabels_perm (h.filterMap Event.endpoint?),
    Histogram.ofSizes_perm (h.filterMap Event.batchSize?), totals]
  simp only [hused]

/-! ## The metrics -/

theorem pairwise_ofSizes (sizes : List ℕ) :
    ((Histogram.ofSizes batchBounds sizes).buckets.map Prod.snd ++ [sizes.length]).Pairwise
      (· ≤ ·) := by
  have hbounds : batchBounds.Pairwise (· ≤ ·) := by decide
  have hmono {b b' : ℕ} (h : b ≤ b') : sizes.countP (· ≤ b) ≤ sizes.countP (· ≤ b') :=
    List.countP_mono_left fun _ _ hle => decide_eq_true ((of_decide_eq_true hle).trans h)
  rw [Histogram.ofSizes, List.map_map]
  refine List.pairwise_append.mpr ⟨?_, List.pairwise_singleton _ _, ?_⟩
  · exact List.pairwise_map.mpr (hbounds.imp hmono)
  · intro n hn total htotal
    obtain ⟨b, -, rfl⟩ := List.mem_map.mp hn
    rw [List.mem_singleton.mp htotal]
    exact List.countP_le_length

theorem isTally_totals (used : List Family) (events : List Event) :
    (totals used events).IsTally used events where
  mem_registered f := by
    rw [totals, List.mem_filter, Bool.or_eq_true, List.contains_iff_mem, List.any_eq_true]
    exact and_iff_right f.mem_all
  registered_sublist := List.filter_sublist
  recordsBuilt := rfl
  malformedRecipients := rfl
  malformed_le := List.countP_mono_left fun e _ h => by
    cases e with
    | recordBuilt malformed => rfl
    | _ => exact absurd h Bool.false_ne_true
  mem_messagesResolved endpoint n := by
    show (endpoint, n) ∈ Counters.ofLabels _ ↔ _
    rw [Counters.ofLabels, List.mem_map, ← List.count_filterMap]
    constructor
    · rintro ⟨label, hlabel, he⟩
      obtain ⟨rfl, rfl⟩ := Prod.mk.inj he
      exact ⟨rfl, List.count_pos_iff.mpr (Names.mem_ofList.mp hlabel)⟩
    · rintro ⟨rfl, hpos⟩
      exact ⟨endpoint, Names.mem_ofList.mpr (List.count_pos_iff.mp hpos), rfl⟩
  labels := by
    have hlabels := Text.pairwise_utf8 (Names.pairwise_ofList (events.filterMap Event.endpoint?))
    rwa [← Counters.map_fst_ofLabels, List.map_map] at hlabels
  unknownPlaceholders := rfl
  buckets := rfl
  cumulative := pairwise_ofSizes _
  sum := rfl
  count := rfl

/-- The metrics after some events are a tally of them, in whatever order they
came and whichever families had been used before. The exposition has a line for
each sample of the families that are registered by then, and no two of the same
name. -/
theorem metrics_are_totals (used : List Family) (events : List Event) :
    let m := (zero used).recordAll events
    m.IsTally used events ∧
    (∀ others, events.Perm others → (zero used).recordAll others = m ∧
      ((zero used).recordAll others).exposition = m.exposition) ∧
    sampleLines m.exposition = m.samples.map sampleText ∧
    (m.samples.map Prod.fst).Nodup := by
  have hlabels : ((totals used events).messagesResolved.map Prod.fst).Nodup := by
    rw [totals, Counters.map_fst_ofLabels]
    exact Names.nodup_of_pairwise (Names.pairwise_ofList _)
  have hbounds : (totals used events).batchSizes.buckets.map Prod.fst = batchBounds := rfl
  have htally := isTally_totals used events
  rw [recordAll_zero]
  refine ⟨htally, fun others hperm => ?_, sampleLines_exposition _,
    nodup_samples hlabels hbounds htally.registered_sublist⟩
  rw [recordAll_zero, totals_perm used hperm]
  exact ⟨rfl, rfl⟩

/-- A process that has not used any family yet, and two handlers whose calls
come in another order, for an endpoint whose label is escaped among others. No
batch is merged, so that no family tells of batches. -/
theorem metrics_are_totals_interleaved :
    let events : List Event :=
      [.recordBuilt true, .messageResolved "merge".toList 2, .recordBuilt false,
        .messageResolved "a\"\n".toList 0, .messageResolved "merge".toList 1]
    let others : List Event :=
      [.recordBuilt false, .messageResolved "a\"\n".toList 0, .recordBuilt true,
        .messageResolved "merge".toList 1, .messageResolved "merge".toList 2]
    let m := (zero []).recordAll events
    events.Perm others ∧ ((zero []).recordAll others).exposition = m.exposition ∧
      m.messagesResolved = [("a\"\n".toList, 1), ("merge".toList, 2)] ∧
      sampleLines m.exposition =
        ["mailmerge_malformed_recipients_total 1".toList,
          "mailmerge_messages_resolved_total\x7bendpoint=\"a\\\"\\n\"\x7d 1".toList,
          "mailmerge_messages_resolved_total\x7bendpoint=\"merge\"\x7d 2".toList,
          "mailmerge_records_built_total 2".toList,
          "mailmerge_unknown_placeholders_total 3".toList] := by
  intro events others m
  have hperm : events.Perm others := by decide
  obtain ⟨-, horder, hlines, -⟩ := metrics_are_totals [] events
  refine ⟨hperm, (horder _ hperm).2, by decide, ?_⟩
  rw [hlines]
  decide +kernel

end Metrics

end FormLetter
