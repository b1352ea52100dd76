import FormLetter.Proofs.CanonicalLine
import FormLetter.Proofs.MergedMessages

/-!
# The address that a message reports

The address of a recipient is read back from the record of the line. A field of
the name `email` takes its place there, as fields take the place of all built-in
variables, while the segment with the address decides whether the address
counts as malformed. With such a field the two can disagree.

Results:

* `email_record`: the address is what the line gives last under its name, or
  else the segment with the address.
* `email_record_eq_iff`: it is this segment unless a field says otherwise.
* `reported_address`: so are the addresses of the messages of a merge, and
  without such a field they are malformed when they have no at sign.
* `reported_address_of_overriding_field`: with such a field neither has to hold.
-/

namespace FormLetter

open Recipient (addressSegment lastValue?)

namespace Context

variable (context : Context)

/-! ## Records -/

theorem email_record (raw : Text) : (context.record raw).email =
    (lastValue? raw "email".toList).getD (addressSegment raw) := by
  have hlower : Text.lower "email".toList = "email".toList := by decide +kernel
  have hfind : Builtin.all.find? (fun b => b.name = "email".toList) = some .email := by decide
  rw [Record.email, Record.get, Record.get?, hlower, lookup_record, lookup_addressRecord, hfind]
  cases lastValue? raw "email".toList <;> rfl

theorem email_record_eq_iff {raw : Text} : (context.record raw).email = addressSegment raw ↔
    ∀ value, lastValue? raw "email".toList = some value → value = addressSegment raw := by
  rw [email_record]
  cases lastValue? raw "email".toList <;> simp

theorem email_record_of_notMem_custom {raw : Text}
    (h : "email".toList ∉ (context.record raw).custom) :
    (context.record raw).email = addressSegment raw := by
  rw [mem_custom_record_iff, ne_eq, not_not] at h
  rw [email_record, h, Option.getD_none]

/-- The segment with the address decides whether it is malformed. -/
theorem malformed_record_iff {raw : Text} :
    (context.record raw).malformed = true ↔ '@' ∉ addressSegment raw := by
  rw [malformed_record, decide_eq_true_eq, addressSegment]

end Context

/-! ## Messages -/

/-- What is true of the message for a line at every index is true of all
messages of a merge. -/
theorem Mailing.forall₂_mergeFrom {mailing : Mailing} {merger : Merger}
    {R : Text → Message → Prop}
    (h : ∀ index line, R line (mailing.message (merger.context index) index line))
    (index : ℕ) (lines : List Text) :
    List.Forall₂ R lines (mailing.mergeFrom merger index lines) := by
  induction lines generalizing index with
  | nil => exact .nil
  | cons line lines ih => exact .cons (h index line) (ih (index + 1))

namespace Context

/-- **Reported addresses.** The address of a record is the one that a field of
the name `email` gives last, and the segment with the address only where no
field gives another. The messages of a merge report these addresses, and mark
them as malformed when the segment has no at sign. For a line without such a
field this is the address as it stands on the line, and it is malformed exactly
when it has no at sign. None of this depends on the context. -/
theorem reported_address (context : Context) :
    (∀ raw, (context.record raw).email =
        (lastValue? raw "email".toList).getD (addressSegment raw) ∧
      ((context.record raw).email = addressSegment raw ↔
        ∀ value, lastValue? raw "email".toList = some value → value = addressSegment raw)) ∧
    ∀ (mailing : Mailing) (merger : Merger) (lines : List Text),
      List.Forall₂ (fun line m =>
        m.email = (context.record line).email ∧
        (m.malformed = true ↔ '@' ∉ addressSegment line) ∧
        ("email".toList ∉ (context.record line).custom →
          m.email = addressSegment line ∧ (m.malformed = true ↔ '@' ∉ m.email)))
        lines (mailing.merge merger lines) := by
  refine ⟨fun raw => ⟨context.email_record raw, context.email_record_eq_iff⟩,
    fun mailing merger => Mailing.forall₂_mergeFrom (fun index line => ?_) 0⟩
  -- The address does not depend on what the clock shows for this line.
  have hemail : (mailing.message (merger.context index) index line).email =
      (context.record line).email :=
    ((merger.context index).email_record line).trans (context.email_record line).symm
  refine ⟨hemail, (merger.context index).malformed_record_iff, fun hcustom => ?_⟩
  rw [hemail, context.email_record_of_notMem_custom hcustom]
  exact ⟨rfl, (merger.context index).malformed_record_iff⟩

/-- A line without an at sign and with a field of another name. -/
theorem reported_address_of_other_field :
    let context : Context := ⟨⟨2024, 1, 1, 0, 0, 0, 0⟩, defaultUnsubscribeBase⟩
    let line := " nobody|recipient_email=q@x".toList
    "email".toList ∉ (context.record line).custom ∧
      ∃ m, Mailing.merge ⟨[], "x".toList⟩ context [line] = [m] ∧
        m.email = "nobody".toList ∧ (m.malformed = true ↔ '@' ∉ m.email) := by
  intro context line
  have hcustom : "email".toList ∉ (context.record line).custom := by decide +kernel
  have haddress : addressSegment line = "nobody".toList := by decide +kernel
  obtain ⟨m, rest, ⟨-, -, hm⟩, hrest, hmerge⟩ :=
    List.forall₂_cons_left_iff.mp ((reported_address context).2 ⟨[], "x".toList⟩ context [line])
  obtain rfl : rest = [] := List.forall₂_nil_left_iff.mp hrest
  obtain ⟨hemail, hmalformed⟩ := hm hcustom
  exact ⟨hcustom, m, hmerge, hemail.trans haddress, hmalformed⟩

/-- A field in the place of the address, and one that hides a malformed
address. -/
theorem reported_address_of_overriding_field :
    let context : Context := ⟨⟨2024, 1, 1, 0, 0, 0, 0⟩, defaultUnsubscribeBase⟩
    (context.record "a@b|email=over@ride".toList).email ≠
        addressSegment "a@b|email=over@ride".toList ∧
      ∃ m ∈ Mailing.merge ⟨[], "x".toList⟩ context ["bad|email=q@x".toList],
        m.malformed = true ∧ '@' ∈ m.email := by
  decide +kernel

end Context

end FormLetter
