import FormLetter.Metrics.Exposition
import FormLetter.Proofs.Numerals
import FormLetter.Proofs.RecipientLines
import Mathlib.Data.List.Flatten
import Mathlib.Data.List.Nodup

/-!
# The samples in the exposition

The exposition has a line for every sample of the families that are registered:
comments apart, it is the list of these samples. The value of a label may hold
any characters, and after escaping it is still on one line and still told apart
from other values.

Specification: `sampleLines` reads the lines of a text that are neither empty
nor comments, `sampleText` writes a sample on a line, `familySamples` lists the
samples of a family and `samples` those of all families that are registered.

Results:

* `sampleLines_familyText_append`: a family has its samples as lines.
* `sampleLines_exposition`: the lines of the exposition are the samples.
* `labelled_injective`: names with different values of a label are different.
* `nodup_samples`: no two samples have the same name.
-/

namespace FormLetter.Metrics

/-! ## Specification -/

/-- Whether a line is neither empty nor a comment. -/
def isSampleLine (line : Text) : Bool := line.head?.any (· != '#')

/-- The lines of a text that are neither empty nor comments. -/
def sampleLines (t : Text) : List Text :=
  let parts := t.split '\n'
  (parts.1 :: parts.2).filter isSampleLine

/-- A name and a value on a line. -/
def sampleText (s : Text × ℕ) : Text := s.1 ++ ' ' :: Text.ofNat s.2

/-- The samples of a histogram of batch sizes. -/
def batchSamples (h : Histogram) : List (Text × ℕ) :=
  let bucket : Text → Text := labelled "mailmerge_batch_size_bucket".toList "le".toList
  (h.buckets.map fun b => (bucket (Text.ofNat b.1), b.2)) ++
    [(bucket "+Inf".toList, h.count), ("mailmerge_batch_size_sum".toList, h.sum),
      ("mailmerge_batch_size_count".toList, h.count)]

/-- The name of the sample of an endpoint. -/
def endpointName (endpoint : Text) : Text :=
  labelled "mailmerge_messages_resolved_total".toList "endpoint".toList endpoint

/-- The samples of the endpoints. -/
def endpointSamples (counters : List (Text × ℕ)) : List (Text × ℕ) :=
  counters.map fun counter => (endpointName counter.1, counter.2)

/-- The samples of a family. -/
def familySamples (m : Metrics) : Family → List (Text × ℕ)
  | .batchSize => batchSamples m.batchSizes
  | .malformedRecipients =>
    [("mailmerge_malformed_recipients_total".toList, m.malformedRecipients)]
  | .messagesResolved => endpointSamples m.messagesResolved
  | .recordsBuilt => [("mailmerge_records_built_total".toList, m.recordsBuilt)]
  | .unknownPlaceholders =>
    [("mailmerge_unknown_placeholders_total".toList, m.unknownPlaceholders)]

/-- The samples that metrics should have, in the order of the names of their
families. -/
def samples (m : Metrics) : List (Text × ℕ) := m.registered.flatMap m.familySamples

/-! ## Lines -/

theorem sampleLines_append_cons (s t : Text) :
    sampleLines (s ++ '\n' :: t) = sampleLines s ++ sampleLines t := by
  rw [sampleLines, Text.split_append_cons, ← List.cons_append, List.filter_append, sampleLines,
    sampleLines]

theorem sampleLines_line_append {parts : List Text} (h : '\n' ∉ parts.flatten) (rest : Text) :
    sampleLines (line parts ++ rest) =
      [parts.flatten].filter isSampleLine ++ sampleLines rest := by
  rw [line, List.append_assoc, List.singleton_append, sampleLines_append_cons]
  congr 1
  rw [sampleLines, Text.split_of_not_mem h]

/-- A name on one line that does not begin like a comment. -/
def IsName (name : Text) : Prop := isSampleLine name = true ∧ '\n' ∉ name

instance (name : Text) : Decidable (IsName name) :=
  inferInstanceAs (Decidable (isSampleLine name = true ∧ '\n' ∉ name))

theorem IsName.isSampleLine_append {name : Text} (h : IsName name) (rest : Text) :
    isSampleLine (name ++ rest) = true := by
  obtain ⟨hname, -⟩ := h
  cases name with
  | nil => exact absurd hname Bool.false_ne_true
  | cons c name => exact hname

theorem lineFeed_notMem_labelChar (c : Char) : '\n' ∉ labelChar c := by
  unfold labelChar
  split_ifs with hslash hquote hline
  · decide
  · decide
  · decide
  · exact fun hmem => hline (List.mem_singleton.mp hmem).symm

theorem IsName.labelled {name label : Text} (h : IsName name) (hlabel : '\n' ∉ label)
    (value : Text) : IsName (labelled name label value) := by
  have hvalue : '\n' ∉ value.flatMap labelChar := fun hmem =>
    have ⟨c, _, hc⟩ := List.mem_flatMap.mp hmem
    lineFeed_notMem_labelChar c hc
  constructor
  · rw [Metrics.labelled]
    simp only [List.append_assoc]
    exact h.isSampleLine_append _
  · simp [Metrics.labelled, h.2, hlabel, hvalue]

theorem sampleLines_samples_append {samples : List (Text × ℕ)} (h : ∀ s ∈ samples, IsName s.1)
    (rest : Text) :
    sampleLines ((samples.map fun s => sample s.1 s.2).flatten ++ rest) =
      samples.map sampleText ++ sampleLines rest := by
  induction samples with
  | nil => rfl
  | cons s samples ih =>
    obtain ⟨hs, hsamples⟩ := List.forall_mem_cons.mp h
    have htext : [s.1, " ".toList, Text.ofNat s.2].flatten = sampleText s := by
      simp [sampleText]
    have hname : isSampleLine (sampleText s) = true := hs.isSampleLine_append _
    have hline : '\n' ∉ sampleText s := by
      have hvalue : '\n' ∉ Text.ofNat s.2 := fun hmem =>
        absurd (Text.isDigit_of_mem_ofNat hmem) (by decide)
      simp [sampleText, hs.2, hvalue]
    rw [List.map_cons, List.flatten_cons, List.append_assoc, sample,
      sampleLines_line_append (by rwa [htext]), htext, ih hsamples, List.map_cons,
      List.filter_cons_of_pos hname]
    rfl

/-- The lines of help and type are comments, and a family without values has no line. -/
theorem sampleLines_family_append {name help kind : Text} {samples : List (Text × ℕ)}
    (hname : '\n' ∉ name) (hhelp : '\n' ∉ help) (hkind : '\n' ∉ kind)
    (h : ∀ s ∈ samples, IsName s.1) (rest : Text) :
    sampleLines (family name help kind (samples.map fun s => sample s.1 s.2) ++ rest) =
      samples.map sampleText ++ sampleLines rest := by
  cases samples with
  | nil => rfl
  | cons s samples =>
    have hhelpLine : '\n' ∉ ["# HELP ".toList, name, " ".toList, help].flatten := by
      simp [hname, hhelp]
    have hkindLine : '\n' ∉ ["# TYPE ".toList, name, " ".toList, kind].flatten := by
      simp [hname, hkind]
    have hfamily : family name help kind ((s :: samples).map fun s => sample s.1 s.2) =
        line ["# HELP ".toList, name, " ".toList, help] ++
          line ["# TYPE ".toList, name, " ".toList, kind] ++
          ((s :: samples).map fun s => sample s.1 s.2).flatten := rfl
    rw [hfamily, List.append_assoc, List.append_assoc, sampleLines_line_append hhelpLine,
      sampleLines_line_append hkindLine, sampleLines_samples_append h]
    rfl

/-- The text of a family has the form of one, with its samples as values. -/
theorem familyText_eq_family (m : Metrics) (f : Family) : ∃ help kind, '\n' ∉ help ∧
    '\n' ∉ kind ∧ m.familyText f =
      family f.name help kind ((m.familySamples f).map fun s => sample s.1 s.2) := by
  cases f with
  | batchSize =>
    refine ⟨"Number of recipients per batch merge".toList, "histogram".toList, by decide,
      by decide, ?_⟩
    rw [familyText, histogram, familySamples, batchSamples, List.map_append, List.map_map]
    rfl
  | messagesResolved =>
    refine ⟨"Total templates resolved".toList, "counter".toList, by decide, by decide, ?_⟩
    rw [familyText, labelledCounters, familySamples, endpointSamples, List.map_map]
    rfl
  | malformedRecipients => exact ⟨_, "counter".toList, by decide, by decide, rfl⟩
  | recordsBuilt => exact ⟨_, "counter".toList, by decide, by decide, rfl⟩
  | unknownPlaceholders => exact ⟨_, "counter".toList, by decide, by decide, rfl⟩

theorem isName_of_mem_batchSamples {h : Histogram} {s : Text × ℕ} (hs : s ∈ batchSamples h) :
    IsName s.1 := by
  have hbucket : IsName "mailmerge_batch_size_bucket".toList := by decide
  rw [batchSamples, List.mem_append, List.mem_map] at hs
  rcases hs with ⟨b, -, rfl⟩ | hs
  · exact hbucket.labelled (by decide) _
  · simp only [List.mem_cons, List.not_mem_nil, or_false] at hs
    rcases hs with rfl | rfl | rfl
    · exact hbucket.labelled (by decide) _
    · show IsName "mailmerge_batch_size_sum".toList
      decide
    · show IsName "mailmerge_batch_size_count".toList
      decide

theorem isName_of_mem_endpointSamples {counters : List (Text × ℕ)} {s : Text × ℕ}
    (hs : s ∈ endpointSamples counters) : IsName s.1 := by
  have hname : IsName "mailmerge_messages_resolved_total".toList := by decide
  obtain ⟨counter, -, rfl⟩ := List.mem_map.mp hs
  exact hname.labelled (by decide) _

theorem isName_of_mem_familySamples {m : Metrics} {f : Family} {s : Text × ℕ}
    (hs : s ∈ m.familySamples f) : IsName s.1 := by
  cases f with
  | batchSize => exact isName_of_mem_batchSamples hs
  | messagesResolved => exact isName_of_mem_endpointSamples hs
  | malformedRecipients =>
    rw [List.mem_singleton.mp hs]
    show IsName "mailmerge_malformed_recipients_total".toList
    decide
  | recordsBuilt =>
    rw [List.mem_singleton.mp hs]
    show IsName "mailmerge_records_built_total".toList
    decide
  | unknownPlaceholders =>
    rw [List.mem_singleton.mp hs]
    show IsName "mailmerge_unknown_placeholders_total".toList
    decide

theorem sampleLines_familyText_append (m : Metrics) (f : Family) (rest : Text) :
    sampleLines (m.familyText f ++ rest) =
      (m.familySamples f).map sampleText ++ sampleLines rest := by
  obtain ⟨help, kind, hhelp, hkind, htext⟩ := m.familyText_eq_family f
  have hname : '\n' ∉ f.name := by cases f <;> decide
  rw [htext, sampleLines_family_append hname hhelp hkind fun s => isName_of_mem_familySamples]

/-- The lines with values are the samples of the families that are registered. -/
theorem sampleLines_exposition (m : Metrics) :
    sampleLines m.exposition = m.samples.map sampleText := by
  rw [exposition, samples]
  induction m.registered with
  | nil => rfl
  | cons f families ih =>
    rw [List.flatMap_cons, List.flatMap_cons, List.map_append, sampleLines_familyText_append, ih]

/-! ## The names of the samples -/

theorem labelChar_ne_nil (c : Char) : labelChar c ≠ [] := by
  unfold labelChar
  split_ifs <;> exact List.cons_ne_nil _ _

/-- Escaped characters are told apart by what they begin with. -/
theorem labelChar_append_inj {c d : Char} {s t : Text}
    (h : labelChar c ++ s = labelChar d ++ t) : c = d ∧ s = t := by
  unfold labelChar at h
  split_ifs at h <;> grind

theorem flatMap_labelChar_injective :
    Function.Injective fun value : Text => value.flatMap labelChar := by
  intro s t h
  induction s generalizing t with
  | nil =>
    cases t with
    | nil => rfl
    | cons d t => exact absurd (List.append_eq_nil_iff.mp h.symm).1 (labelChar_ne_nil d)
  | cons c s ih =>
    cases t with
    | nil => exact absurd (List.append_eq_nil_iff.mp h).1 (labelChar_ne_nil c)
    | cons d t =>
      obtain ⟨rfl, hrest⟩ := labelChar_append_inj h
      rw [ih hrest]

theorem labelled_injective (name label : Text) : Function.Injective (labelled name label) :=
  fun _ _ h => flatMap_labelChar_injective (List.append_cancel_left (List.append_cancel_right h))

/-- The names of the samples that are always there. -/
def fixedNames : List Text :=
  (batchSamples (.empty batchBounds)).map Prod.fst ++
    ["mailmerge_malformed_recipients_total".toList, "mailmerge_records_built_total".toList,
      "mailmerge_unknown_placeholders_total".toList]

/-- The samples of all families, those for the endpoints apart. -/
theorem map_fst_familySamples_perm {m : Metrics}
    (hbounds : m.batchSizes.buckets.map Prod.fst = batchBounds) :
    ((Family.all.flatMap m.familySamples).map Prod.fst).Perm
      ((m.messagesResolved.map Prod.fst).map endpointName ++ fixedNames) := by
  have hbatch : (batchSamples m.batchSizes).map Prod.fst =
      (batchSamples (.empty batchBounds)).map Prod.fst := by
    rw [batchSamples, batchSamples, Histogram.empty, ← hbounds]
    simp [Function.comp_def]
  have hendpoints : (endpointSamples m.messagesResolved).map Prod.fst =
      (m.messagesResolved.map Prod.fst).map endpointName := by
    rw [endpointSamples, List.map_map, List.map_map]
    rfl
  simp only [Family.all, List.flatMap_cons, List.flatMap_nil, familySamples, List.map_append,
    List.map_cons, List.map_nil, hbatch, hendpoints, fixedNames]
  rw [← List.append_assoc]
  refine (List.perm_append_comm_assoc _ _ _).trans (List.Perm.append_left _ ?_)
  rw [List.append_assoc]
  rfl

theorem nodup_samples {m : Metrics} (hlabels : (m.messagesResolved.map Prod.fst).Nodup)
    (hbounds : m.batchSizes.buckets.map Prod.fst = batchBounds)
    (hregistered : m.registered.Sublist Family.all) : (m.samples.map Prod.fst).Nodup := by
  have hfixed : fixedNames.Nodup := by decide +kernel
  have hapart : ∀ name ∈ fixedNames, ¬"mailmerge_messages_resolved_total".toList <+: name := by
    decide +kernel
  -- What is not registered only leaves samples out.
  refine List.Nodup.sublist ((hregistered.flatMap m.familySamples).map Prod.fst) ?_
  rw [(map_fst_familySamples_perm hbounds).nodup_iff]
  have hinjective : Function.Injective endpointName := labelled_injective _ _
  refine List.Nodup.append (List.Nodup.map hinjective hlabels) hfixed ?_
  intro name hname hmem
  obtain ⟨endpoint, -, rfl⟩ := List.mem_map.mp hname
  refine hapart _ hmem ?_
  simp only [endpointName, labelled, List.append_assoc]
  exact List.prefix_append _ _

end FormLetter.Metrics
