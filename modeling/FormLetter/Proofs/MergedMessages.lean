import FormLetter.Mailing
import FormLetter.Proofs.Substitution
import Mathlib.Data.List.Forall2

/-!
# The messages of a merge

A template can be resolved for a line in several ways: against the record of
the line, by itself for the line, or as the subject or the body of a mailing.
All of them give the same text.

Specification: `IsMessageFor` tells what the message for the line at an index
has to be, in terms of resolving its two templates one by one.

Results:

* `apply_eq_message_resolve`: an empty template, too, is resolved as it would
  be against the record.
* `isMessageFor_message`: the message for a line is what it has to be.
* `merge_isMessageFor`: a merge makes such a message for every line and no
  other messages.
-/

namespace FormLetter

/-! ## Specification -/

/-- What the message for the line at an index has to be. -/
structure Mailing.IsMessageFor (mailing : Mailing) (context : Context) (index : ℕ) (line : Text)
    (m : Message) : Prop where
  index_eq : m.index = index
  subject_eq_apply : m.subject = context.apply (mailing.subjectFor index) line
  subject_eq_resolve :
    m.subject = ((context.record line).resolve (mailing.subjectFor index)).message
  body_eq_apply : m.body = context.apply mailing.body line
  email_eq : m.email = (context.record line).email
  malformed_eq : m.malformed = (context.record line).malformed
  /-- The names reported are in the order of their bytes. -/
  pairwise_unknown : (m.unknown.map Text.utf8).Pairwise (· < ·)
  /-- The names reported are those that the subject or the body uses and the
  record lacks. -/
  mem_unknown_iff : ∀ name, name ∈ m.unknown ↔
    ((∃ p ∈ Template.placeholders (mailing.subjectFor index), p.key = name) ∨
      ∃ p ∈ Template.placeholders mailing.body, p.key = name) ∧
    (context.record line).get? name = none
  /-- They are those that are reported of the subject or of the body. -/
  mem_unknown_iff_reported : ∀ name, name ∈ m.unknown ↔
    name ∈ ((context.record line).resolve (mailing.subjectFor index)).unknown ∨
      name ∈ ((context.record line).resolve mailing.body).unknown

/-! ## Single templates -/

theorem Context.apply_eq_message_resolve (context : Context) (template line : Text) :
    context.apply template line = ((context.record line).resolve template).message := by
  rw [apply]
  cases template with
  | nil => rw [List.isEmpty_nil, if_pos rfl, Record.resolve, Template.pieces_nil, List.flatMap_nil]
  | cons c template => rw [List.isEmpty_cons, if_neg Bool.false_ne_true]

namespace Record

theorem pairwise_unknown (record : Record) (template : Text) :
    (record.resolve template).unknown.Pairwise (· < ·) :=
  Names.pairwise_ofList _

/-- The names reported are those of the placeholders that the record does not
find under their key. -/
theorem mem_unknown_iff_get? {record : Record} {template name : Text} :
    name ∈ (record.resolve template).unknown ↔
      (∃ p ∈ Template.placeholders template, p.key = name) ∧ record.get? name = none := by
  rw [mem_unknown]
  refine and_congr_right ?_
  rintro ⟨p, hp, rfl⟩
  rw [get?_key record (Template.isName_of_mem_placeholders hp)]

end Record

/-! ## Messages -/

namespace Mailing

variable (mailing : Mailing) (merger : Merger)

theorem isMessageFor_message (context : Context) (index : ℕ) (line : Text) :
    mailing.IsMessageFor context index line (mailing.message context index line) where
  index_eq := rfl
  subject_eq_apply := (context.apply_eq_message_resolve _ _).symm
  subject_eq_resolve := rfl
  body_eq_apply := (context.apply_eq_message_resolve _ _).symm
  email_eq := rfl
  malformed_eq := rfl
  pairwise_unknown := Text.pairwise_utf8 (Names.pairwise_union (Record.pairwise_unknown _ _))
  mem_unknown_iff name := by
    rw [message, Names.mem_union, Record.mem_unknown_iff_get?, Record.mem_unknown_iff_get?,
      ← or_and_right]
  mem_unknown_iff_reported _ := Names.mem_union

theorem mergeFrom_eq_map_zipIdx (index : ℕ) (lines : List Text) :
    mailing.mergeFrom merger index lines =
      (lines.zipIdx index).map fun entry =>
        mailing.message (merger.context entry.2) entry.2 entry.1 := by
  induction lines generalizing index with
  | nil => rfl
  | cons line lines ih => rw [mergeFrom, List.zipIdx_cons, List.map_cons, ih]

theorem exists_of_mem_merge {lines : List Text} {m : Message}
    (h : m ∈ mailing.merge merger lines) :
    ∃ line ∈ lines, ∃ index, m = mailing.message (merger.context index) index line := by
  rw [merge, mergeFrom_eq_map_zipIdx] at h
  obtain ⟨entry, hentry, rfl⟩ := List.mem_map.mp h
  exact ⟨entry.1, List.fst_mem_of_mem_zipIdx hentry, entry.2, rfl⟩

/-- A message tells of a record what it gives for the address and what the two
templates become. -/
theorem message_congr {context other : Context} {index : ℕ} {line line' : Text}
    (hemail : (context.record line).email = (other.record line').email)
    (hmalformed : (context.record line).malformed = (other.record line').malformed)
    (hsubject : (context.record line).resolve (mailing.subjectFor index) =
      (other.record line').resolve (mailing.subjectFor index))
    (hbody : (context.record line).resolve mailing.body =
      (other.record line').resolve mailing.body) :
    mailing.message context index line = mailing.message other index line' := by
  simp only [message, hemail, hmalformed, hsubject, hbody]

theorem mergeFrom_congr {other : Merger} {lines lines' : List Text}
    (h : List.Forall₂ (fun line line' => ∀ index,
      mailing.message (merger.context index) index line =
        mailing.message (other.context index) index line') lines lines')
    (index : ℕ) : mailing.mergeFrom merger index lines = mailing.mergeFrom other index lines' := by
  induction h generalizing index with
  | nil => rfl
  | cons hline _ ih => rw [mergeFrom, mergeFrom, hline, ih]

/-- **Merging.** A merge makes one message for every line, in order, with the
index of the line and the clock as it is read for the line. Its subject and its
body are those that the templates give by themselves, its address and whether
it is malformed come from the record of the line, and it reports the names that
its subject or its body uses and the record lacks, each of them once and in the
order of their bytes. -/
theorem merge_isMessageFor (lines : List Text) :
    List.Forall₂
      (fun entry m => mailing.IsMessageFor (merger.context entry.2) entry.2 entry.1 m)
      lines.zipIdx (mailing.merge merger lines) := by
  rw [merge, mergeFrom_eq_map_zipIdx, List.forall₂_map_right_iff, List.forall₂_same]
  exact fun entry _ => mailing.isMessageFor_message (merger.context entry.2) entry.2 entry.1

end Mailing

end FormLetter
