import FormLetter.Proofs.LineRecord
import FormLetter.Proofs.Missing
import FormLetter.Proofs.Trimming

/-!
# What every record keeps to

Names come into a record as those of the built-in variables, as the fields of
a line and as the names of pairs, and every look-up puts the name that it is
given into lower case. All variables can be reached because the names are
stored in a form that trimming and lower case leave as it is.

Specification: `Record.IsSound` collects what may be relied on.

Results:

* `isKey_of_mem_keys_record`, `isKey_of_mem_keys_ofPairs`: the names of a record are
  in this form.
* `Ordered.isSound`: ordered records with such names are sound.
* `every_record_isSound`: so are all records.
-/

namespace FormLetter

open Recipient (IsKey fieldKey isKey_fieldKey)

/-! ## Specification -/

/-- What may be relied on of a record. -/
structure Record.IsSound (record : Record) : Prop where
  trim_name : ∀ entry ∈ record.entries, entry.1.trim = entry.1
  lower_name : ∀ entry ∈ record.entries, entry.1.lower = entry.1
  mem_of_mem_custom : ∀ name ∈ record.custom, name ∈ record.entries.map Prod.fst
  /-- The variables are in the order of the bytes of their names, each name once. -/
  pairwise_name : (record.entries.map fun entry => entry.1.utf8).Pairwise (· < ·)
  get?_entry : ∀ entry ∈ record.entries, record.get? entry.1 = some entry.2
  contains_iff : ∀ name, record.contains name = true ↔ ∃ value, record.get? name = some value
  get_of_some : ∀ name value, record.get? name = some value → record.get name = value
  get_of_none : ∀ name, record.get? name = none → record.get name = []
  /-- Names that differ in the case of ASCII letters alone find the same. -/
  get?_congr : ∀ name other : Text, name.asciiLower = other.asciiLower →
    record.get? name = record.get? other ∧ record.contains name = record.contains other
  /-- The variables make the record again, as far as templates go. -/
  ofPairs_entries : (ofPairs record.entries).entries = record.entries ∧
    ∀ template, (ofPairs record.entries).resolve template = record.resolve template

/-! ## Names -/

theorem Builtin.isKey_name (b : Builtin) : IsKey b.name := by
  have hall : ∀ b ∈ all, b.name.trim = b.name ∧ b.name.lower = b.name := by decide +kernel
  obtain ⟨htrim, hlower⟩ := hall b (mem_all b)
  exact ⟨htrim, hlower⟩

theorem Context.isKey_of_mem_keys_record {context : Context} {raw name : Text}
    (h : name ∈ (context.record raw).keys) : IsKey name := by
  rcases context.mem_keys_record.mp h with hbuiltin | hcustom
  · obtain ⟨b, -, rfl⟩ := List.mem_map.mp hbuiltin
    exact b.isKey_name
  · obtain ⟨_, -, left, _, -, -, rfl⟩ := context.mem_custom_record.mp hcustom
    exact isKey_fieldKey left

namespace Record

theorem ordered_ofPairs (pairs : List (Text × Text)) : (ofPairs pairs).Ordered := by
  refine Ordered.putFields ?_ _
  exact ⟨List.Pairwise.nil, List.Pairwise.nil, fun _ h => h⟩

theorem isKey_of_mem_keys_ofPairs {pairs : List (Text × Text)} {name : Text}
    (h : name ∈ (ofPairs pairs).keys) : IsKey name := by
  rcases mem_keys_putFields.mp h with hfield | hempty
  · rw [List.map_map] at hfield
    obtain ⟨pair, -, rfl⟩ := List.mem_map.mp hfield
    exact isKey_fieldKey pair.1
  · cases hempty

/-! ## Variables made into a record again -/

theorem lookup_ofPairs (pairs : List (Text × Text)) (name : Text) :
    (ofPairs pairs).entries.lookup name =
      (pairs.map fun pair => (fieldKey pair.1, pair.2)).reverse.lookup name := by
  rw [ofPairs, lookup_putFields]
  exact Option.or_none

variable {record : Record}

theorem entries_ofPairs_entries (h : record.Ordered) (hkeys : ∀ name ∈ record.keys, IsKey name) :
    (ofPairs record.entries).entries = record.entries := by
  refine (ordered_ofPairs _).entries_eq h fun name => ?_
  have hnames : record.entries.map (fun entry => (fieldKey entry.1, entry.2)) = record.entries := by
    conv_rhs => rw [← List.map_id record.entries]
    refine List.map_congr_left fun entry hentry => ?_
    rw [(hkeys entry.1 (List.mem_map_of_mem hentry)).fieldKey_eq, id]
  have hnodup : (record.entries.map Prod.fst).Nodup := Names.nodup_of_pairwise h.keys
  have hreverse : (record.entries.reverse.map Prod.fst).Nodup := by
    rwa [List.map_reverse, List.nodup_reverse]
  rw [lookup_ofPairs, hnames]
  refine Option.ext fun value => ?_
  rw [Variables.lookup_eq_some_iff hreverse, Variables.lookup_eq_some_iff hnodup,
    List.mem_reverse]

/-- Templates see nothing of a record but its variables. -/
theorem resolve_congr {other : Record} (h : record.entries = other.entries) (template : Text) :
    record.resolve template = other.resolve template := by
  refine resolve_congr_of_lookup fun p _ => ?_
  rw [h]

/-! ## Soundness -/

theorem Ordered.isSound (h : record.Ordered) (hkeys : ∀ name ∈ record.keys, IsKey name) :
    record.IsSound where
  trim_name entry hentry := (hkeys entry.1 (List.mem_map_of_mem hentry)).trim_eq
  lower_name entry hentry := (hkeys entry.1 (List.mem_map_of_mem hentry)).lower_eq
  mem_of_mem_custom := h.subset
  pairwise_name := by
    have := Text.pairwise_utf8 h.keys
    rwa [Record.keys, List.map_map] at this
  get?_entry entry hentry := by
    have hlower := (hkeys entry.1 (List.mem_map_of_mem hentry)).lower_eq
    rw [get?, hlower, h.lookup_eq_some_iff]
    exact hentry
  contains_iff name := by
    rw [contains_eq_isSome_get?, Option.isSome_iff_exists]
  get_of_some name value hvalue := by rw [get, hvalue, Option.getD_some]
  get_of_none name hnone := by rw [get, hnone, Option.getD_none]
  get?_congr name other hcase := by
    rw [contains, contains, get?, get?, Text.lower_congr hcase]
    exact ⟨rfl, rfl⟩
  ofPairs_entries := by
    have hentries := entries_ofPairs_entries h hkeys
    exact ⟨hentries, resolve_congr hentries⟩

/-- **Records.** Every record is sound, be it read from a line or made of
pairs. -/
theorem every_record_isSound :
    (∀ (context : Context) (raw : Text), (context.record raw).IsSound) ∧
      ∀ pairs : List (Text × Text), (ofPairs pairs).IsSound := by
  constructor
  · intro context raw
    exact (context.ordered_record raw).isSound fun _ => Context.isKey_of_mem_keys_record
  · intro pairs
    exact (ordered_ofPairs pairs).isSound fun _ => isKey_of_mem_keys_ofPairs

end Record

end FormLetter
