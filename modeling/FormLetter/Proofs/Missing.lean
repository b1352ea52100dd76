import FormLetter.Proofs.Substitution
import FormLetter.Proofs.Usages
import FormLetter.Proofs.Variables
import Mathlib.Data.List.Forall2

/-!
# What a record lacks

An analysis for a record and the resolved template both tell which variables
the record lacks. They find them separately: the one by looking through the
names of the record for every usage, the other by looking up every placeholder
as it is spelled.

Results:

* `mem_missingNames`: the names that are missing are the keys of the
  placeholders without a value, as are those that resolving a template reports.
* `missing_perm_unknown`: the lists differ in their order alone.
-/

namespace FormLetter

namespace Record

theorem contains_eq_isSome_get? (record : Record) (name : Text) :
    record.contains name = (record.get? name).isSome := by
  rw [Bool.eq_iff_iff, contains, List.contains_iff_mem, Option.isSome_iff_ne_none, ne_eq, get?,
    lookup_eq_none_iff, Classical.not_not, keys]

end Record

namespace Template

/-- The names of a template that a record lacks, by rank. -/
def missingNames (template : Text) (record : Record) : List Text :=
  (rankedNames template).filter fun name => !record.contains name

theorem map_name_usages_analyze (template : Text) :
    (analyze template).usages.map Usage.name = rankedNames template := by
  rw [usages_analyze, List.map_map]
  exact List.map_id _

/-- An analysis lists the keys of the placeholders. -/
theorem mem_map_name_usages_analyze {template name : Text} :
    name ∈ (analyze template).usages.map Usage.name ↔ name ∈ keys template := by
  rw [map_name_usages_analyze, mem_rankedNames, keys, List.mem_map]

/-- An analysis for a record is that of the template with the missing names. -/
theorem analyzeFor_eq (template : Text) (record : Record) : analyzeFor template record =
    { analyze template with missing := some (missingNames template record) } := by
  simp only [analyzeFor, map_name_usages_analyze, missingNames]

theorem missing_analyzeFor (template : Text) (record : Record) :
    (analyzeFor template record).missing = some (missingNames template record) := by
  rw [analyzeFor_eq]

theorem mem_missingNames {template name : Text} {record : Record} :
    name ∈ missingNames template record ↔
      (∃ p ∈ placeholders template, p.key = name) ∧ record.entries.lookup name = none := by
  rw [missingNames, List.mem_filter, mem_rankedNames]
  refine and_congr_right ?_
  rintro ⟨p, hp, rfl⟩
  rw [Record.contains_eq_isSome_get?, Record.get?_key record (isName_of_mem_placeholders hp),
    Bool.not_eq_true', Option.isSome_eq_false_iff, Option.isNone_iff_eq_none]

theorem nodup_missingNames (template : Text) (record : Record) :
    (missingNames template record).Nodup :=
  (nodup_rankedNames template).filter _

theorem missingNames_perm (template : Text) (record : Record) :
    (missingNames template record).Perm (record.resolve template).unknown := by
  have hunknown : (record.resolve template).unknown.Nodup :=
    Names.nodup_of_pairwise (Names.pairwise_ofList _)
  rw [List.perm_ext_iff_of_nodup (nodup_missingNames template record) hunknown]
  intro name
  rw [mem_missingNames, Record.mem_unknown]

/-- Nothing is missing exactly when every placeholder has a value. -/
theorem missingNames_eq_nil_iff {template : Text} {record : Record} :
    missingNames template record = [] ↔
      ∀ p ∈ placeholders template, record.entries.lookup p.key ≠ none := by
  rw [List.eq_nil_iff_forall_not_mem]
  constructor
  · intro h p hp hnone
    exact h p.key (mem_missingNames.mpr ⟨⟨p, hp, rfl⟩, hnone⟩)
  · intro h name hname
    obtain ⟨⟨p, hp, rfl⟩, hnone⟩ := mem_missingNames.mp hname
    exact h p hp hnone

/-- **Agreement.** The names that an analysis for a record misses are those
that resolving reports, each of them once. The analysis has them in the order
of its usages, where a name that is used more often comes first and of equally
used names the one that occurs first; the resolved template has them in the
order of their bytes. Nothing is missing exactly when the message has the value
of an entry of the record in the place of every placeholder. -/
theorem missing_perm_unknown (template : Text) (record : Record) :
    ∃ missing,
      (analyzeFor template record).missing = some missing ∧
      missing.Nodup ∧
      missing.Perm (record.resolve template).unknown ∧
      missing.Sublist ((analyzeFor template record).usages.map Usage.name) ∧
      ((analyzeFor template record).usages.map Usage.name).Pairwise (Precedes template) ∧
      ((record.resolve template).unknown.map Text.utf8).Pairwise (· < ·) ∧
      (missing = [] ↔ ∃ gaps values,
        gapsFrom? template 0 (occurrences template) = some gaps ∧
        List.Forall₂ (fun p value => record.entries.lookup p.key = some value)
          (placeholders template) values ∧
        (record.resolve template).message = weave gaps values) := by
  have hnames : (analyzeFor template record).usages.map Usage.name = rankedNames template :=
    map_name_usages_analyze template
  refine ⟨missingNames template record, missing_analyzeFor template record,
    nodup_missingNames template record, missingNames_perm template record, ?_, ?_, ?_, ?_⟩
  · rw [hnames]
    exact List.filter_sublist
  · rw [hnames]
    exact pairwise_rankedNames template
  · exact Text.pairwise_utf8 (Names.pairwise_ofList _)
  · rw [missingNames_eq_nil_iff]
    constructor
    · intro h
      refine ⟨_, _, gapsFrom?_occurrences template, ?_, record.message_resolve template⟩
      rw [List.forall₂_map_right_iff, List.forall₂_same]
      intro p hp
      obtain ⟨value, hvalue⟩ := Option.ne_none_iff_exists'.mp (h p hp)
      rw [Record.get, Record.get?_name record (isName_of_mem_placeholders hp), hvalue,
        Option.getD_some]
    · rintro ⟨_, values, -, hvalues, -⟩ p hp hnone
      obtain ⟨i, hi, rfl⟩ := List.getElem_of_mem hp
      have hvalue := hvalues.get hi (hvalues.length_eq ▸ hi)
      rw [List.get_eq_getElem, hnone] at hvalue
      cases hvalue

end Template

end FormLetter
