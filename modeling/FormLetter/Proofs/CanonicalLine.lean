import FormLetter.Proofs.LineSegments

/-!
# Canonical lines

What a record takes from a recipient line is the address and, for each field
name, the value that is given last. A line that says this and nothing else is
read back as it was written, and has the same record.

Specification: `Record.fields` are the fields of a record with their values,
`Recipient.lastValue?` is the value that a line gives last for a name, and
`Recipient.Line.IsCanonical` says of a line that nothing is lost when it is
written.

Results:

* `read_text`: a canonical line is read back.
* `mem_fields_record`: the fields of a record are the last values of its line.
* `putFields_congr`: records differ only if the last values of their fields do.
* `record_canonical`: the record of a line is that of its canonical lines.
-/

namespace FormLetter

open Recipient (IsKey fieldKey field? gives segmentValue)

/-! ## Specification -/

/-- The fields of a record with their values, in the order of their names. -/
def Record.fields (record : Record) : List (Text × Text) :=
  record.entries.filter fun entry => record.custom.contains entry.1

namespace Recipient

/-- The segment of a line that holds the address. -/
def addressSegment (raw : Text) : Text := (raw.trim.split '|').1

/-- The value that a line gives last for a field name. -/
def lastValue? (raw key : Text) : Option Text :=
  ((raw.trim.split '|').2.findRev? (gives key)).map segmentValue

/-- A field that stays as it is when it is written and read. -/
structure IsCanonicalField (field : Text × Text) : Prop where
  isKey : IsKey field.1
  isTrimmed : Text.IsTrimmed field.2
  bar_notMem_key : '|' ∉ field.1
  equals_notMem_key : '=' ∉ field.1
  bar_notMem_value : '|' ∉ field.2

/-- A line that stays as it is when it is written and read. Blanks may stand
at the end of its address, but not at the start. -/
structure Line.IsCanonical (line : Line) : Prop where
  bar_notMem_address : '|' ∉ line.address
  head_address : ∀ c ∈ line.address.head?, Text.isBlank c = false
  isCanonicalField : ∀ field ∈ line.fields, IsCanonicalField field

end Recipient

/-! ## Separators -/

namespace Text

theorem notMem_of_mem_split {sep : Char} {t part : Text}
    (h : part ∈ (split sep t).1 :: (split sep t).2) : sep ∉ part := by
  induction t generalizing part with
  | nil =>
    obtain rfl : part = [] := by simpa [split] using h
    exact List.not_mem_nil
  | cons c t ih =>
    rw [split] at h
    split_ifs at h with hc
    · rcases List.mem_cons.mp h with rfl | h
      · exact List.not_mem_nil
      · exact ih h
    · rcases List.mem_cons.mp h with rfl | h
      · rw [List.mem_cons, not_or]
        exact ⟨Ne.symm hc, ih List.mem_cons_self⟩
      · exact ih (List.mem_cons_of_mem _ h)

theorem mem_head?_of_mem_head?_split {sep c : Char} {t : Text} (h : c ∈ (split sep t).1.head?) :
    c ∈ t.head? := by
  have hjoin := join_split sep t
  rw [← hjoin, join, List.head?_append, Option.mem_def.mp h]
  rfl

end Text

/-! ## Lines that are read back -/

namespace Recipient

theorem field?_fieldText {field : Text × Text} (h : IsCanonicalField field) :
    field? (Line.fieldText field) = some field := by
  refine field?_eq_some_iff.mpr ⟨field.1, field.2, rfl, h.equals_notMem_key, ?_, ?_⟩
  · exact h.isKey.fieldKey_eq
  · exact h.isTrimmed.trim_eq

theorem bar_notMem_fieldText {field : Text × Text} (h : IsCanonicalField field) :
    '|' ∉ Line.fieldText field := by
  rw [Line.fieldText, List.mem_append, List.mem_cons, not_or, not_or]
  exact ⟨h.bar_notMem_key, by decide, h.bar_notMem_value⟩

namespace Line

variable {line : Line}

theorem filterMap_field?_map_fieldText {fields : List (Text × Text)}
    (h : ∀ field ∈ fields, IsCanonicalField field) :
    (fields.map fieldText).filterMap field? = fields := by
  rw [List.filterMap_map]
  have hread : ∀ field ∈ fields, (field? ∘ fieldText) field = some field :=
    fun field hfield => field?_fieldText (h field hfield)
  rw [List.filterMap_congr hread, List.filterMap_some]

/-- **Round trip.** A canonical line is read back as it was written. -/
theorem read_text (h : line.IsCanonical) : read line.text = line := by
  obtain ⟨address, fields⟩ := line
  cases fields with
  | nil =>
    have htext : text ⟨address, []⟩ = Text.join '|' address [[]] := rfl
    rw [htext, read_join_cons h.head_address h.bar_notMem_address (by simp)]
    rfl
  | cons first others =>
    have htext : text ⟨address, first :: others⟩ =
        Text.join '|' address ((first :: others).map fieldText) := by
      rw [List.map_cons, Text.join_cons]
      rfl
    have hbar : ∀ segment ∈ (first :: others).map fieldText, '|' ∉ segment :=
      List.forall_mem_map.mpr fun field hfield =>
        bar_notMem_fieldText (h.isCanonicalField field hfield)
    rw [htext, List.map_cons, read_join_cons h.head_address h.bar_notMem_address hbar,
      ← List.map_cons, filterMap_field?_map_fieldText h.isCanonicalField]

end Line

end Recipient

/-! ## Records and the last values of their lines -/

namespace Record

variable {record : Record}

/-- Setting fields comes to the same if they have the same last values. -/
theorem putFields_congr (h : record.Ordered) {xs ys : List (Text × Text)}
    (hlookup : ∀ name, xs.reverse.lookup name = ys.reverse.lookup name) :
    record.putFields xs = record.putFields ys := by
  have hnames (zs : List (Text × Text)) (name : Text) :
      name ∈ (record.putFields zs).custom ↔
        zs.reverse.lookup name ≠ none ∨ name ∈ record.custom := by
    rw [mem_custom_putFields, ← List.mem_reverse, ← List.map_reverse]
    refine or_congr_left ?_
    rw [ne_eq, Variables.lookup_eq_none_iff, not_not]
  refine Ordered.ext (h.putFields xs) (h.putFields ys) ?_ ?_ ?_
  · intro name
    rw [lookup_putFields, lookup_putFields, hlookup]
  · intro name
    rw [hnames, hnames, hlookup]
  · rw [malformed_putFields, malformed_putFields]

theorem mem_fields (h : record.Ordered) {key value : Text} :
    (key, value) ∈ record.fields ↔
      record.entries.lookup key = some value ∧ key ∈ record.custom := by
  rw [fields, List.mem_filter, h.lookup_eq_some_iff, List.contains_iff_mem]

theorem nodup_fields (h : record.Ordered) : (record.fields.map Prod.fst).Nodup :=
  (Names.nodup_of_pairwise h.keys).sublist (List.filter_sublist.map Prod.fst)

end Record

namespace Recipient

theorem lastValue?_eq_lookup (raw key : Text) :
    lastValue? raw key = (Line.read raw).fields.reverse.lookup key :=
  (reverse_lookup_filterMap_field? _ key).symm

theorem mem_read_of_lastValue? {raw key value : Text} (h : lastValue? raw key = some value) :
    (key, value) ∈ (Line.read raw).fields := by
  rw [lastValue?_eq_lookup] at h
  exact List.mem_reverse.mp (Variables.mem_of_lookup_eq_some h)

theorem isCanonicalField_of_mem_read {raw : Text} {field : Text × Text}
    (h : field ∈ (Line.read raw).fields) : IsCanonicalField field := by
  obtain ⟨segment, hsegment, hfield⟩ := List.mem_filterMap.mp h
  have hbar : '|' ∉ segment := Text.notMem_of_mem_split (List.mem_cons_of_mem _ hsegment)
  obtain ⟨key, value⟩ := field
  obtain ⟨left, right, rfl, hequals, rfl, rfl⟩ := field?_eq_some_iff.mp hfield
  rw [List.mem_append, List.mem_cons, not_or, not_or] at hbar
  exact
    { isKey := isKey_fieldKey left
      isTrimmed := Text.isTrimmed_trim right
      bar_notMem_key := fun hmem => hbar.1 (mem_of_mem_fieldKey hmem rfl)
      equals_notMem_key := fun hmem => hequals (mem_of_mem_fieldKey hmem rfl)
      bar_notMem_value := fun hmem => hbar.2.2 (Text.mem_of_mem_trim hmem) }

/-- What is read of a line is canonical. -/
theorem isCanonical_read (raw : Text) : (Line.read raw).IsCanonical where
  bar_notMem_address := Text.notMem_of_mem_split List.mem_cons_self
  head_address c hc := (Text.isTrimmed_trim raw).head c (Text.mem_head?_of_mem_head?_split hc)
  isCanonicalField _ h := isCanonicalField_of_mem_read h

end Recipient

namespace Context

open Recipient (Line addressSegment lastValue?)

variable (context : Context) {raw : Text}

theorem mem_custom_record_iff {key : Text} :
    key ∈ (context.record raw).custom ↔ lastValue? raw key ≠ none := by
  rw [record, lineRecord, Record.mem_custom_putFields, addressRecord_eq, Record.custom_putBuiltins,
    Recipient.lastValue?_eq_lookup, ne_eq, Variables.lookup_eq_none_iff, not_not,
    List.map_reverse, List.mem_reverse]
  exact or_iff_left List.not_mem_nil

/-- The last value of a name counts, and without one what is derived from the
address. -/
theorem lookup_record (raw key : Text) : (context.record raw).entries.lookup key =
    (lastValue? raw key).or ((context.addressRecord (addressSegment raw)).entries.lookup key) := by
  rw [record, lineRecord, Record.lookup_putFields, Recipient.lastValue?_eq_lookup]
  rfl

/-- The fields of a record are the last values of its line. -/
theorem mem_fields_record {key value : Text} :
    (key, value) ∈ (context.record raw).fields ↔ lastValue? raw key = some value := by
  rw [Record.mem_fields (context.ordered_record raw), mem_custom_record_iff, lookup_record]
  cases hlast : lastValue? raw key with
  | none => simp
  | some last => simp

/-- Lines with the same address and the same last values have the same
record. -/
theorem record_congr {other : Text} (haddress : addressSegment other = addressSegment raw)
    (hlast : ∀ key, lastValue? other key = lastValue? raw key) :
    context.record other = context.record raw := by
  have hread : (Line.read other).address = (Line.read raw).address := haddress
  rw [record, record, lineRecord, lineRecord, hread]
  refine Record.putFields_congr (context.ordered_addressRecord _) fun name => ?_
  rw [← Recipient.lastValue?_eq_lookup, ← Recipient.lastValue?_eq_lookup, hlast]

theorem read_text_of_perm {fields : List (Text × Text)}
    (h : fields.Perm (context.record raw).fields) :
    Line.read (Line.text ⟨addressSegment raw, fields⟩) = ⟨addressSegment raw, fields⟩ := by
  have hcanonical := Recipient.isCanonical_read raw
  refine Line.read_text ⟨hcanonical.bar_notMem_address, hcanonical.head_address, ?_⟩
  rintro ⟨key, value⟩ hfield
  have hlast := context.mem_fields_record.mp (h.mem_iff.mp hfield)
  exact hcanonical.isCanonicalField _ (Recipient.mem_read_of_lastValue? hlast)

/-- **Canonical lines.** The fields of a record are the last values that its
line gives. Written behind the address in any order, they make a line with the
same record, and so does every line with the same address and the same last
values. -/
theorem record_canonical (raw : Text) :
    (∀ key value, (key, value) ∈ (context.record raw).fields ↔
      lastValue? raw key = some value) ∧
    (∀ fields : List (Text × Text), fields.Perm (context.record raw).fields →
      context.record (Line.text ⟨addressSegment raw, fields⟩) = context.record raw) ∧
    ∀ other, addressSegment other = addressSegment raw →
      (∀ key, lastValue? other key = lastValue? raw key) →
      context.record other = context.record raw := by
  refine ⟨fun _ _ => context.mem_fields_record, fun fields h => ?_,
    fun _ => context.record_congr⟩
  have hread := context.read_text_of_perm h
  have hnodup : (fields.map Prod.fst).Nodup :=
    (h.map Prod.fst).symm.nodup (Record.nodup_fields (context.ordered_record raw))
  have hreverse : (fields.reverse.map Prod.fst).Nodup := by
    rwa [List.map_reverse, List.nodup_reverse]
  refine context.record_congr (congrArg Line.address hread) fun key => Option.ext fun value => ?_
  rw [Recipient.lastValue?_eq_lookup, hread, Variables.lookup_eq_some_iff hreverse,
    List.mem_reverse, h.mem_iff, mem_fields_record]

/-- A line with blanks, capitals, a value that is replaced and a segment that
says nothing. The blank at the end of its address counts. -/
theorem record_of_untidy_line :
    let context : Context := ⟨⟨2024, 1, 1, 0, 0, 0, 0⟩, defaultUnsubscribeBase⟩
    let raw := " a@b.c |Tier= x|junk|TIER = y=z |b=1".toList
    let fields := [("tier".toList, "y=z".toList), ("b".toList, "1".toList)]
    fields.Perm (context.record raw).fields ∧
      context.record "a@b.c |tier=y=z|b=1".toList = context.record raw := by
  intro context raw fields
  have hperm : fields.Perm (context.record raw).fields := by decide +kernel
  have htext : Line.text ⟨addressSegment raw, fields⟩ = "a@b.c |tier=y=z|b=1".toList := by
    decide +kernel
  refine ⟨hperm, ?_⟩
  rw [← htext]
  exact (context.record_canonical raw).2.1 fields hperm

end Context

end FormLetter
