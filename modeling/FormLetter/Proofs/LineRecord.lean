import FormLetter.Proofs.BuiltinVariables
import FormLetter.Proofs.ByteOrder
import FormLetter.Proofs.Variables

/-!
# The record of a recipient line

Specification: `lineValue?` finds the value of a name in the line itself. The
last segment that gives the name decides, and the address, the clock and the
configuration only where no segment does.

Results:

* `get?_record`: the record of a line has exactly these values.
* `ordered_record`: its names and the names of its fields are in order.
* `mem_custom_record`: the names of its fields are those that segments give.
* `length_entries_record`: it has the built-in variables and the fields with
  other names.
* `record_eq_reference`: all of it together.
-/

namespace FormLetter

/-! ## Specification -/

namespace Recipient

/-- Whether a segment has an equals sign and gives a value for a name: what
stands before the first equals sign, trimmed and in lower case, is the name. -/
def gives (key segment : Text) : Bool :=
  match segment.cut? '=' with
  | some (left, _) => left.trim.lower = key
  | none => false

/-- What stands behind the first equals sign of a segment, trimmed. -/
def segmentValue (segment : Text) : Text :=
  match segment.cut? '=' with
  | some (_, right) => right.trim
  | none => []

end Recipient

/-- The value that a recipient line has for a name: that of the last segment
behind the address that gives the name, or else the one that is derived if the
name is that of a built-in variable. -/
def Context.lineValue? (context : Context) (raw name : Text) : Option Text :=
  let parts := raw.trim.split '|'
  match parts.2.findRev? (Recipient.gives name.lower) with
  | some segment => some (Recipient.segmentValue segment)
  | none => (Builtin.all.find? fun b => b.name = name.lower).map (context.derived parts.1)

/-! ## Segments -/

theorem Text.cut?_eq_some_iff {sep : Char} {t left right : Text} :
    cut? sep t = some (left, right) ↔ t = left ++ sep :: right ∧ sep ∉ left := by
  refine ⟨eq_of_cut?, ?_⟩
  rintro ⟨rfl, hsep⟩
  induction left with
  | nil => simp [cut?]
  | cons c left ih =>
    rw [List.mem_cons, not_or] at hsep
    obtain ⟨hc, hleft⟩ := hsep
    rw [List.cons_append, cut?, if_neg (Ne.symm hc), ih hleft]
    rfl

namespace Recipient

theorem field?_eq_some_iff {segment key value : Text} :
    field? segment = some (key, value) ↔
      ∃ left right : Text, segment = left ++ '=' :: right ∧ '=' ∉ left ∧
        left.trim.lower = key ∧ right.trim = value := by
  rw [field?, Option.map_eq_some_iff]
  constructor
  · rintro ⟨⟨left, right⟩, hcut, he⟩
    obtain ⟨hkey, hvalue⟩ := Prod.mk.inj he
    obtain ⟨hsegment, hsep⟩ := Text.cut?_eq_some_iff.mp hcut
    exact ⟨left, right, hsegment, hsep, hkey, hvalue⟩
  · rintro ⟨left, right, hsegment, hsep, rfl, rfl⟩
    exact ⟨(left, right), Text.cut?_eq_some_iff.mpr ⟨hsegment, hsep⟩, rfl⟩

/-- Looking a name up among the fields is looking for the segment that gives
it. -/
theorem lookup_filterMap_field? (segments : List Text) (key : Text) :
    (segments.filterMap field?).lookup key = (segments.find? (gives key)).map segmentValue := by
  induction segments with
  | nil => rfl
  | cons segment segments ih =>
    rw [List.filterMap_cons, List.find?_cons, field?, gives]
    cases hcut : segment.cut? '=' with
    | none => exact ih
    | some sides =>
      obtain ⟨left, right⟩ := sides
      simp only [Option.map_some, Variables.lookup_cons, fieldKey, ih]
      by_cases hkey : left.trim.lower = key
      · simp [hkey, segmentValue, hcut]
      · simp [hkey, Ne.symm hkey]

theorem reverse_lookup_filterMap_field? (segments : List Text) (key : Text) :
    (segments.filterMap field?).reverse.lookup key =
      (segments.findRev? (gives key)).map segmentValue := by
  rw [← List.filterMap_reverse, lookup_filterMap_field?, List.findRev?_eq_find?_reverse]

theorem mem_map_fst_filterMap_field? {segments : List Text} {key : Text} :
    key ∈ (segments.filterMap field?).map Prod.fst ↔
      ∃ segment ∈ segments, ∃ left right : Text, segment = left ++ '=' :: right ∧ '=' ∉ left ∧
        left.trim.lower = key := by
  simp only [List.mem_map, List.mem_filterMap]
  constructor
  · rintro ⟨⟨_, value⟩, ⟨segment, hsegment, hfield⟩, rfl⟩
    obtain ⟨left, right, he, hsep, hkey, -⟩ := field?_eq_some_iff.mp hfield
    exact ⟨segment, hsegment, left, right, he, hsep, hkey⟩
  · rintro ⟨segment, hsegment, left, right, he, hsep, hkey⟩
    have hfield : field? segment = some (key, right.trim) :=
      field?_eq_some_iff.mpr ⟨left, right, he, hsep, hkey, rfl⟩
    exact ⟨(key, right.trim), ⟨segment, hsegment, hfield⟩, rfl⟩

end Recipient

/-! ## Built-in variables -/

namespace Record

/-- The record with some built-in variables set one after the other. -/
def putBuiltins (record : Record) (value : Builtin → Text) (builtins : List Builtin) : Record :=
  builtins.foldl (fun r b => r.putDerived b.name (value b)) record

variable {record : Record} {value : Builtin → Text} {builtins : List Builtin}

theorem putBuiltins_cons (b : Builtin) : record.putBuiltins value (b :: builtins) =
    (record.putDerived b.name (value b)).putBuiltins value builtins :=
  rfl

theorem Ordered.putBuiltins (h : record.Ordered) : (record.putBuiltins value builtins).Ordered := by
  induction builtins generalizing record with
  | nil => exact h
  | cons b builtins ih => exact ih (h.putDerived b.name (value b))

theorem custom_putBuiltins : (record.putBuiltins value builtins).custom = record.custom := by
  induction builtins generalizing record with
  | nil => rfl
  | cons b builtins ih => exact ih

theorem mem_keys_putBuiltins {name : Text} :
    name ∈ (record.putBuiltins value builtins).keys ↔
      name ∈ builtins.map Builtin.name ∨ name ∈ record.keys := by
  induction builtins generalizing record with
  | nil => simp [putBuiltins]
  | cons b builtins ih =>
    rw [putBuiltins_cons, ih, keys_putDerived, Names.mem_insert, List.map_cons, List.mem_cons,
      or_left_comm, or_assoc]

theorem lookup_putBuiltins (b : Builtin) :
    (record.putBuiltins value builtins).entries.lookup b.name =
      if b ∈ builtins then some (value b) else record.entries.lookup b.name := by
  induction builtins generalizing record with
  | nil => simp [putBuiltins]
  | cons a builtins ih =>
    rw [putBuiltins_cons, ih, putDerived, Variables.lookup_put]
    by_cases hb : b ∈ builtins
    · rw [if_pos hb, if_pos (List.mem_cons_of_mem a hb)]
    · by_cases ha : b = a
      · subst ha
        simp
      · have hname : b.name ≠ a.name := fun h => ha (Builtin.name_injective h)
        rw [if_neg hb, if_neg hname, if_neg (by simp [ha, hb])]

theorem malformed_putFields (record : Record) (fields : List (Text × Text)) :
    (record.putFields fields).malformed = record.malformed := by
  induction fields generalizing record with
  | nil => rfl
  | cons field fields ih => exact ih (record.putCustom field.1 field.2)

end Record

namespace Context

variable (context : Context)

theorem addressRecord_eq (address : Text) : context.addressRecord address =
    Record.putBuiltins { malformed := Recipient.Address.isMalformed address }
      (context.derived address) Builtin.all := by
  rw [addressRecord, derivedVariables_eq, List.foldl_map]
  rfl

/-- Without fields, a name has the value of the built-in variable of this
name. -/
theorem lookup_addressRecord (address key : Text) :
    (context.addressRecord address).entries.lookup key =
      (Builtin.all.find? fun b => b.name = key).map (context.derived address) := by
  cases hfind : Builtin.all.find? fun b => b.name = key with
  | none =>
    rw [Option.map_none, Record.lookup_eq_none_iff, addressRecord_eq,
      Record.mem_keys_putBuiltins]
    rintro (hkey | hkey)
    · obtain ⟨b, hb, rfl⟩ := List.mem_map.mp hkey
      exact absurd (List.find?_eq_none.mp hfind b hb) (by simp)
    · cases hkey
  | some b =>
    obtain rfl : b.name = key := by simpa using List.find?_some hfind
    rw [addressRecord_eq, Record.lookup_putBuiltins, if_pos (Builtin.mem_all b), Option.map_some]

theorem ordered_addressRecord (address : Text) : (context.addressRecord address).Ordered := by
  rw [addressRecord_eq]
  exact Record.Ordered.putBuiltins ⟨List.Pairwise.nil, List.Pairwise.nil, fun _ h => nomatch h⟩

/-! ## Lines -/

/-- A record tells whether the address of its line has no at sign. -/
theorem malformed_record (raw : Text) :
    (context.record raw).malformed = decide ('@' ∉ (raw.trim.split '|').1) := by
  have hmalformed : (context.record raw).malformed =
      Recipient.Address.isMalformed (raw.trim.split '|').1 :=
    Record.malformed_putFields _ _
  rw [hmalformed, Bool.eq_iff_iff, decide_eq_true_eq, ← Bool.not_eq_false,
    Recipient.Address.isMalformed_eq_false_iff]

theorem get?_record (raw name : Text) :
    (context.record raw).get? name = context.lineValue? raw name := by
  unfold Record.get? record lineRecord Recipient.Line.read lineValue?
  rw [Record.lookup_putFields, Recipient.reverse_lookup_filterMap_field?, lookup_addressRecord]
  simp only
  cases (raw.trim.split '|').2.findRev? (Recipient.gives name.lower) <;> rfl

theorem ordered_record (raw : Text) : (context.record raw).Ordered :=
  (context.ordered_addressRecord _).putFields _

theorem mem_custom_record {raw key : Text} :
    key ∈ (context.record raw).custom ↔
      ∃ segment ∈ (raw.trim.split '|').2, ∃ left right : Text,
        segment = left ++ '=' :: right ∧ '=' ∉ left ∧ left.trim.lower = key := by
  unfold record lineRecord Recipient.Line.read
  rw [Record.mem_custom_putFields, Recipient.mem_map_fst_filterMap_field?, addressRecord_eq,
    Record.custom_putBuiltins]
  exact or_iff_left (List.not_mem_nil)

theorem mem_keys_record {raw key : Text} :
    key ∈ (context.record raw).keys ↔
      key ∈ Builtin.all.map Builtin.name ∨ key ∈ (context.record raw).custom := by
  unfold record lineRecord
  rw [Record.mem_keys_putFields, Record.mem_custom_putFields, addressRecord_eq,
    Record.custom_putBuiltins, Record.mem_keys_putBuiltins, or_comm]
  exact or_congr (or_iff_left List.not_mem_nil) (or_iff_left List.not_mem_nil).symm

/-- The names of a record are the built-in ones and those fields that have
another name. -/
theorem length_entries_record (raw : Text) :
    (context.record raw).entries.length =
      15 + ((context.record raw).custom.filter
        fun key => key ∉ Builtin.all.map Builtin.name).length := by
  have hordered := context.ordered_record raw
  have hnodup : (Builtin.all.map Builtin.name ++ (context.record raw).custom.filter
      fun key => key ∉ Builtin.all.map Builtin.name).Nodup := by
    refine List.nodup_append'.mpr ⟨Builtin.nodup_map_name, ?_, ?_⟩
    · exact (Names.nodup_of_pairwise hordered.custom).filter _
    · intro key hkey hfilter
      simpa using absurd hkey (by simpa using (List.mem_filter.mp hfilter).2)
  have hperm : (context.record raw).keys.Perm (Builtin.all.map Builtin.name ++
      (context.record raw).custom.filter fun key => key ∉ Builtin.all.map Builtin.name) := by
    rw [List.perm_ext_iff_of_nodup (Names.nodup_of_pairwise hordered.keys) hnodup]
    intro key
    rw [mem_keys_record, List.mem_append, List.mem_filter, decide_eq_true_eq]
    tauto
  have hlength := hperm.length_eq
  rw [Record.keys, List.length_map, List.length_append, List.length_map] at hlength
  exact hlength

/-- **The record of a line.** It gives every name the value that the line has
for it. The names of its fields are those that the segments with an equals
sign give, and its names are the built-in ones and the names of its fields,
each of them once and in the order of their bytes. -/
theorem record_eq_reference (raw : Text) :
    (∀ name, (context.record raw).get? name = context.lineValue? raw name) ∧
    ((context.record raw).custom.map Text.utf8).Pairwise (· < ·) ∧
    (∀ key, key ∈ (context.record raw).custom ↔
      ∃ segment ∈ (raw.trim.split '|').2, ∃ left right : Text,
        segment = left ++ '=' :: right ∧ '=' ∉ left ∧ left.trim.lower = key) ∧
    ((context.record raw).entries.map fun entry => entry.1.utf8).Pairwise (· < ·) ∧
    (context.record raw).entries.length =
      15 + ((context.record raw).custom.filter
        fun key => key ∉ Builtin.all.map Builtin.name).length := by
  have hordered := context.ordered_record raw
  refine ⟨context.get?_record raw, Text.pairwise_utf8 hordered.custom,
    fun key => context.mem_custom_record, ?_, context.length_entries_record raw⟩
  have := Text.pairwise_utf8 hordered.keys
  rwa [Record.keys, List.map_map] at this

end Context

end FormLetter
