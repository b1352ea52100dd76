import FormLetter.Proofs.LineSegments
import FormLetter.Proofs.MergedMessages

/-!
# Segments without use

A segment without an equals sign gives no field, and a field whose name is no
name for a placeholder is never looked up: placeholders are looked up under
names in lower case, and what is read back of a record otherwise is its
address. Such segments can be left out of a line, and no template and no message
tells the difference. The record does: it lists the names of all its fields.

Specification: `isUsable` tells which segments give a field that a placeholder
can name.

Results:

* `filterMap_field?_filter_isUsable`: the segments with such a field are those
  whose field has a name.
* `lookup_lineRecord_filter`: fields that are left out do not matter to the
  other names.
* `resolve_lineRecord_filter`, `email_lineRecord_filter`: so they matter neither
  to templates nor to the address.
* `record_reduced`: nor do segments that are not usable matter to a record.
* `unusable_segments_inert`: segments that are not usable can be left out.
-/

namespace FormLetter

/-! ## Specification -/

/-- Whether a segment gives a field that a placeholder can name: what stands
before its first equals sign, trimmed and in lower case, is a name. -/
def Recipient.isUsable (segment : Text) : Bool :=
  match segment.cut? '=' with
  | some (left, _) => isName left.trim.lower
  | none => false

/-! ## Fields -/

namespace Recipient

theorem filter_field? (segment : Text) :
    (field? segment).filter (fun field => isName field.1) =
      if isUsable segment = true then field? segment else none := by
  rw [isUsable, field?]
  cases segment.cut? '=' with
  | none => rfl
  | some sides =>
    rw [Option.map_some, Option.filter_some]
    rfl

theorem filterMap_field?_filter_isUsable (segments : List Text) :
    (segments.filter isUsable).filterMap field? =
      (segments.filterMap field?).filter fun field => isName field.1 := by
  rw [List.filterMap_filter, List.filter_filterMap]
  exact List.filterMap_congr fun segment _ => (filter_field? segment).symm

end Recipient

namespace Context

variable (context : Context)

/-! ## Records -/

theorem lookup_lineRecord_filter {p : Text → Bool} {name : Text} (h : p name = true)
    (address : Text) (fields : List (Text × Text)) :
    (context.lineRecord ⟨address, fields.filter fun field => p field.1⟩).entries.lookup name =
      (context.lineRecord ⟨address, fields⟩).entries.lookup name := by
  rw [lineRecord, lineRecord, Record.lookup_putFields, Record.lookup_putFields,
    ← List.filter_reverse, Variables.lookup_filter h]

/-- A placeholder is looked up under its key, which is a name. -/
theorem resolve_lineRecord_filter (address : Text) (fields : List (Text × Text))
    (template : Text) :
    (context.lineRecord ⟨address, fields.filter fun field => isName field.1⟩).resolve template =
      (context.lineRecord ⟨address, fields⟩).resolve template := by
  refine Record.resolve_congr_of_lookup fun p hp => ?_
  have hname : isName p.key = true :=
    Placeholder.isName_key (Template.isName_of_mem_placeholders hp)
  exact context.lookup_lineRecord_filter hname address fields

theorem email_lineRecord_filter (address : Text) (fields : List (Text × Text)) :
    (context.lineRecord ⟨address, fields.filter fun field => isName field.1⟩).email =
      (context.lineRecord ⟨address, fields⟩).email := by
  have hname : isName (Text.lower "email".toList) = true := by decide +kernel
  rw [Record.email, Record.email, Record.get, Record.get, Record.get?, Record.get?,
    context.lookup_lineRecord_filter hname]

/-- Fields do not matter to whether the address is malformed. -/
theorem malformed_lineRecord (line : Recipient.Line) :
    (context.lineRecord line).malformed = (context.addressRecord line.address).malformed :=
  Record.malformed_putFields _ line.fields

/-! ## Lines -/

variable {context} {address : Text} {segments : List Text}

theorem record_join (htrim : Text.IsTrimmed address) (haddress : '|' ∉ address)
    (hsegments : ∀ segment ∈ segments, '|' ∉ segment) :
    context.record (Text.join '|' address segments) =
      context.lineRecord ⟨address, segments.filterMap Recipient.field?⟩ := by
  rw [record, Recipient.Line.read_join htrim haddress hsegments]

/-- The record of a line without the segments that are not usable has the fields
with names. -/
theorem record_join_filter_isUsable (htrim : Text.IsTrimmed address) (haddress : '|' ∉ address)
    (hsegments : ∀ segment ∈ segments, '|' ∉ segment) :
    context.record (Text.join '|' address (segments.filter Recipient.isUsable)) =
      context.lineRecord
        ⟨address, (segments.filterMap Recipient.field?).filter fun field => isName field.1⟩ := by
  have husable : ∀ segment ∈ segments.filter Recipient.isUsable, '|' ∉ segment :=
    fun segment h => hsegments segment (List.mem_of_mem_filter h)
  rw [record_join htrim haddress husable, Recipient.filterMap_field?_filter_isUsable]

/-- A line is resolved, reports its address and is malformed as it would be
without its segments that are not usable. -/
theorem record_reduced (context : Context) {address : Text} {segments : List Text}
    (htrim : Text.IsTrimmed address) (haddress : '|' ∉ address)
    (hsegments : ∀ segment ∈ segments, '|' ∉ segment) :
    let line := context.record (Text.join '|' address segments)
    let reduced := context.record (Text.join '|' address (segments.filter Recipient.isUsable))
    (∀ template, reduced.resolve template = line.resolve template) ∧
      reduced.email = line.email ∧ reduced.malformed = line.malformed := by
  intro line reduced
  have hline : line = _ := record_join htrim haddress hsegments
  have hreduced : reduced = _ := record_join_filter_isUsable htrim haddress hsegments
  rw [hline, hreduced]
  refine ⟨fun template => ?_, ?_, ?_⟩
  · rw [resolve_lineRecord_filter]
  · rw [email_lineRecord_filter]
  · rw [malformed_lineRecord, malformed_lineRecord]

/-- **Segments without use.** A line of an address and segments resolves every
template to the same text without those segments that have no equals sign or
before it no name, and in every batch its message is the same without them. -/
theorem unusable_segments_inert (context : Context) {address : Text} {segments : List Text}
    (htrim : Text.IsTrimmed address) (haddress : '|' ∉ address)
    (hsegments : ∀ segment ∈ segments, '|' ∉ segment) :
    let line := Text.join '|' address segments
    let reduced := Text.join '|' address (segments.filter Recipient.isUsable)
    (∀ template, context.apply template reduced = context.apply template line) ∧
      ∀ (mailing : Mailing) (merger : Merger) (before after : List Text),
        mailing.merge merger (before ++ reduced :: after) =
          mailing.merge merger (before ++ line :: after) := by
  intro line reduced
  refine ⟨fun template => ?_, fun mailing merger before after => ?_⟩
  · obtain ⟨hresolve, -, -⟩ := record_reduced context htrim haddress hsegments
    rw [apply_eq_message_resolve, apply_eq_message_resolve, hresolve]
  · refine mailing.mergeFrom_congr merger (List.rel_append ?_ (.cons (fun index => ?_) ?_)) 0
    · exact List.forall₂_same.mpr fun _ _ _ => rfl
    · obtain ⟨hresolve, hemail, hmalformed⟩ :=
        record_reduced (merger.context index) htrim haddress hsegments
      exact mailing.message_congr hemail hmalformed (hresolve _) (hresolve _)
    · exact List.forall₂_same.mpr fun _ _ _ => rfl

/-- A segment without an equals sign, one with a blank in its name, one that has
a name in lower case only (it begins with the Kelvin sign), and one of blanks. -/
theorem unusable_segments_inert_of_kelvin_sign :
    let context : Context := ⟨⟨2024, 1, 1, 0, 0, 0, 0⟩, defaultUnsubscribeBase⟩
    let line := "a@b.c|junk|first name=x|\u212aEY = v |  ".toList
    let reduced := "a@b.c|\u212aEY = v ".toList
    let mailing : Mailing := ⟨["\x7bjunk\x7d".toList], "\x7bkey\x7d".toList⟩
    context.apply "\x7bKey\x7d".toList line = "v".toList ∧
      mailing.merge context [line] = mailing.merge context [reduced] := by
  intro context line reduced mailing
  let segments : List Text :=
    ["junk".toList, "first name=x".toList, "\u212aEY = v ".toList, "  ".toList]
  have htrim : Text.IsTrimmed "a@b.c".toList := Text.trim_eq_self_iff.mp (by decide +kernel)
  have hline : line = Text.join '|' "a@b.c".toList segments := by decide +kernel
  have hreduced : reduced = Text.join '|' "a@b.c".toList (segments.filter Recipient.isUsable) := by
    decide +kernel
  have hsegments : ∀ segment ∈ segments, '|' ∉ segment := by decide
  obtain ⟨happly, hmerge⟩ := unusable_segments_inert context htrim (by decide) hsegments
  rw [← hline, ← hreduced] at happly hmerge
  refine ⟨?_, (hmerge mailing context [] []).symm⟩
  rw [← happly]
  decide +kernel

end Context

end FormLetter
