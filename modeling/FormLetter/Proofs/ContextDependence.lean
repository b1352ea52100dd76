import FormLetter.Proofs.DeliveryAddress
import FormLetter.Proofs.Usages

/-!
# What depends on the clock and the configuration

Five of the built-in variables are read off the clock and one is made with the
configured page on which recipients unsubscribe. All the rest of a record comes
from the line alone, so that a mailing which does without the six is merged
again to the same messages at any other time.

Specification: `Builtin.ofClock` and `Builtin.ofContext` list the six, and
`Context.Separates` says which of them may have different values in two
contexts.

Results:

* `derived_eq_of_not_separates`: the other built-in variables have the same
  value in both contexts.
* `lookup_record_eq`: so has every name that the line gives as a field.
* `keys_record_eq`, `custom_record_eq`, `malformed_record_eq`: names, names of
  fields and the mark of a malformed address do not depend on the context.
* `resolve_record_eq`, `merge_eq_of_notMem_keys`: nor do templates and mailings
  that do without the six.
* `record_agrees_across_contexts`: all of it together.
-/

namespace FormLetter

/-! ## Specification -/

namespace Builtin

/-- The variables that are read off the clock. -/
def ofClock : List Builtin := [time, date, day, month, year]

/-- The variables that do not follow from the line alone. -/
def ofContext : List Builtin := unsubscribe :: ofClock

end Builtin

/-- Whether two contexts may give a variable different values: it is read off
the clock and their clocks differ, or it is the page on which recipients
unsubscribe and they have different pages configured. -/
def Context.Separates (context other : Context) (b : Builtin) : Prop :=
  b ∈ Builtin.ofClock ∧ context.now ≠ other.now ∨
    b = .unsubscribe ∧ context.unsubscribeBase ≠ other.unsubscribeBase

/-! ## Subjects -/

/-- What no subject uses, the default subject does not use either: it has no
placeholders. -/
theorem Mailing.notMem_keys_subjectFor {mailing : Mailing} {name : Text}
    (h : ∀ subject ∈ mailing.subjects, name ∉ Template.keys subject) (index : ℕ) :
    name ∉ Template.keys (mailing.subjectFor index) := by
  rw [subjectFor]
  cases hsubject : mailing.subjects[index % mailing.subjects.length]? with
  | none =>
    have hkeys : Template.keys defaultSubject = [] := by decide +kernel
    rw [Option.getD_none, hkeys]
    exact List.not_mem_nil
  | some subject => exact h subject (List.mem_of_getElem? hsubject)

namespace Context

open Recipient (addressSegment lastValue?)

variable {context other : Context}

/-! ## Records -/

theorem derived_eq_of_not_separates {b : Builtin} (h : ¬context.Separates other b)
    (address : Text) : context.derived address b = other.derived address b := by
  rw [Separates, not_or, not_and, not_and, not_not, not_not] at h
  obtain ⟨hclock, hbase⟩ := h
  cases b with
  | time => rw [derived, derived, hclock (by decide)]
  | date => rw [derived, derived, hclock (by decide)]
  | day => rw [derived, derived, hclock (by decide)]
  | month => rw [derived, derived, hclock (by decide)]
  | year => rw [derived, derived, hclock (by decide)]
  | unsubscribe => rw [derived, derived, hbase rfl]
  | _ => rfl

theorem mem_ofContext_of_separates {b : Builtin} (h : context.Separates other b) :
    b ∈ Builtin.ofContext := by
  rcases h with ⟨hclock, -⟩ | ⟨rfl, -⟩
  · exact List.mem_cons_of_mem _ hclock
  · exact List.mem_cons_self

/-- A name has the same value in both contexts if the line gives it as a field
or the contexts do not separate it. -/
theorem lookup_record_eq {raw key : Text}
    (h : key ∉ (context.record raw).custom →
      ∀ b : Builtin, b.name = key → ¬context.Separates other b) :
    (context.record raw).entries.lookup key = (other.record raw).entries.lookup key := by
  rw [mem_custom_record_iff, ne_eq, not_not] at h
  rw [lookup_record, lookup_record]
  cases hlast : lastValue? raw key with
  | some value => rw [Option.some_or, Option.some_or]
  | none =>
    rw [Option.none_or, Option.none_or, lookup_addressRecord, lookup_addressRecord]
    cases hfind : Builtin.all.find? fun b => b.name = key with
    | none => rfl
    | some b =>
      have hname : b.name = key := by simpa using List.find?_some hfind
      rw [Option.map_some, Option.map_some, derived_eq_of_not_separates (h hlast b hname)]

variable (context other) (raw : Text)

theorem custom_record_eq : (context.record raw).custom = (other.record raw).custom := by
  refine Names.eq_of_mem_iff (context.ordered_record raw).custom (other.ordered_record raw).custom
    fun name => ?_
  rw [mem_custom_record_iff, mem_custom_record_iff]

theorem keys_record_eq : (context.record raw).keys = (other.record raw).keys := by
  refine Names.eq_of_mem_iff (context.ordered_record raw).keys (other.ordered_record raw).keys
    fun name => ?_
  rw [mem_keys_record, mem_keys_record, custom_record_eq context other]

theorem malformed_record_eq : (context.record raw).malformed = (other.record raw).malformed := by
  rw [malformed_record, malformed_record]

/-! ## Templates and mailings -/

variable {context other raw}

/-- A template is resolved alike if the line gives all of the six variables
that it uses. -/
theorem resolve_record_eq {template : Text}
    (h : ∀ b ∈ Builtin.ofContext, b.name ∈ Template.keys template →
      b.name ∈ (context.record raw).custom) :
    (context.record raw).resolve template = (other.record raw).resolve template := by
  refine Record.resolve_congr_of_lookup fun p hp => ?_
  refine lookup_record_eq fun hcustom b hb hseparates => hcustom ?_
  have hused : b.name ∈ Template.keys template := hb ▸ List.mem_map_of_mem hp
  exact hb ▸ h b (mem_ofContext_of_separates hseparates) hused

theorem merge_eq_of_notMem_keys {mailing : Mailing}
    (h : ∀ b ∈ Builtin.ofContext,
      (∀ subject ∈ mailing.subjects, b.name ∉ Template.keys subject) ∧
        b.name ∉ Template.keys mailing.body) (merger other : Merger) (lines : List Text) :
    mailing.merge merger lines = mailing.merge other lines := by
  refine mailing.mergeFrom_congr merger (List.forall₂_same.mpr fun line _ index => ?_) 0
  refine mailing.message_congr ?_ (malformed_record_eq _ _ line) ?_ ?_
  · rw [email_record, email_record]
  · exact resolve_record_eq fun b hb hused =>
      absurd hused (Mailing.notMem_keys_subjectFor (h b hb).1 index)
  · exact resolve_record_eq fun b hb hused => absurd hused (h b hb).2

/-- **Contexts.** The records of a line in two contexts have the same names, the
same names of fields and the same mark of a malformed address. If a name has
different values, then it is not given as a field, and it is read off the clock
and the clocks differ, or it is the page on which recipients unsubscribe and
other pages are configured. So a template that uses none of these variables but
those which the line gives as fields becomes the same in both contexts, and a
mailing whose subjects and body use none of them is merged to the same
messages, whatever the clocks show for each line. -/
theorem record_agrees_across_contexts (context other : Context) :
    (∀ raw,
      (context.record raw).keys = (other.record raw).keys ∧
      (context.record raw).custom = (other.record raw).custom ∧
      (context.record raw).malformed = (other.record raw).malformed ∧
      ∀ key, (context.record raw).entries.lookup key ≠ (other.record raw).entries.lookup key →
        key ∉ (context.record raw).custom ∧
          ∃ b : Builtin, b.name = key ∧ context.Separates other b) ∧
    (∀ template line,
      (∀ b ∈ Builtin.ofContext, b.name ∈ Template.keys template →
        b.name ∈ (context.record line).custom) →
      context.apply template line = other.apply template line) ∧
    ∀ (mailing : Mailing) (lines : List Text),
      (∀ b ∈ Builtin.ofContext,
        (∀ subject ∈ mailing.subjects, b.name ∉ Template.keys subject) ∧
          b.name ∉ Template.keys mailing.body) →
      ∀ merger otherMerger : Merger,
        mailing.merge merger lines = mailing.merge otherMerger lines := by
  refine ⟨fun raw => ⟨keys_record_eq context other raw, custom_record_eq context other raw,
    malformed_record_eq context other raw, fun key hne => ?_⟩, fun template line h => ?_,
    fun _ lines h merger otherMerger => merge_eq_of_notMem_keys h merger otherMerger lines⟩
  · by_contra hseparates
    exact hne (lookup_record_eq fun hcustom b hb hb' => hseparates ⟨hcustom, b, hb, hb'⟩)
  · rw [apply_eq_message_resolve, apply_eq_message_resolve, resolve_record_eq h]

/-- A line that gives one of the six variables as a field, and templates that do
without the others. -/
theorem record_agrees_across_contexts_of_year :
    let context : Context := ⟨⟨2024, 1, 1, 0, 0, 0, 0⟩, defaultUnsubscribeBase⟩
    let other : Context := ⟨⟨2025, 4, 18, 14, 30, 45, 0⟩, "https://a.b/leave".toList⟩
    let line := "a@b.c|Year = 2030".toList
    let template := "\x7bYEAR\x7d \x7b\x7bemail\x7d".toList
    let mailing : Mailing := ⟨["To \x7bdomain\x7d".toList], "Hi \x7bfirstname\x7d".toList⟩
    (context.record line).entries.lookup "date".toList ≠
        (other.record line).entries.lookup "date".toList ∧
      "date".toList ∉ (context.record line).custom ∧
      (∃ b : Builtin, b.name = "date".toList ∧ context.Separates other b) ∧
      "year".toList ∈ Template.keys template ∧
      context.apply template line = other.apply template line ∧
      mailing.merge context [line] = mailing.merge other [line] := by
  intro context other line template mailing
  obtain ⟨hrecord, happly, hmerge⟩ := record_agrees_across_contexts context other
  have hdate : (context.record line).entries.lookup "date".toList ≠
      (other.record line).entries.lookup "date".toList := by decide +kernel
  obtain ⟨-, -, -, hvalues⟩ := hrecord line
  obtain ⟨hcustom, hseparates⟩ := hvalues _ hdate
  refine ⟨hdate, hcustom, hseparates, by decide +kernel, happly _ _ ?_, hmerge _ _ ?_ _ _⟩
  · decide +kernel
  · decide +kernel

end Context

end FormLetter
