import FormLetter.Proofs.Chunks
import FormLetter.Proofs.Grouping
import FormLetter.Proofs.MergedMessages
import FormLetter.Proofs.MessageSize
import FormLetter.Proofs.UsedVariables

/-!
# The size of a message is known from the analysis

An analysis counts how often a template uses each variable. This is enough to
tell how long the message for a record will be, without resolving the template:
the bytes of the placeholders go, and those of each value come as often as its
variable is used. So a merge within a limit can be foretold from the analyses of
its subjects and its body.

Specification: `Template.predictedSize` computes the size of a message from the
analysis of its template, and `Mailing.predictedCharge` that of the message for
a recipient line.

Results:

* `size_message_eq`: the size of a message is the predicted one.
* `mergeWithinFrom_cons_eq`: a merge within a limit counts the predicted bytes.
* `outputSize_merge_eq`: so do all messages together.
* `analysis_predicts_size`: messages, single steps and whole merges have the
  predicted sizes.
-/

namespace FormLetter

/-! ## Specification -/

/-- The bytes that the values of a record take, each as often as its variable
is used. A variable that the record lacks takes none. -/
def Analysis.valueBytes (analysis : Analysis) (record : Record) : ℕ :=
  (analysis.usages.map fun u =>
    u.count * match record.get? u.name with
      | some value => value.size
      | none => 0).sum

namespace Template

/-- The bytes from the beginning to the end of every placeholder. -/
def placeholderBytes (template : Text) : ℕ :=
  ((occurrences template).map fun o => o.stop - o.start).sum

/-- The size of the message for a record, by the analysis of the template. -/
def predictedSize (template : Text) (record : Record) : ℕ :=
  template.size - placeholderBytes template + (analyze template).valueBytes record

end Template

/-- The bytes of subject and body for the recipient line at an index, by the
analyses of the two templates. -/
def Mailing.predictedCharge (mailing : Mailing) (context : Context) (index : ℕ) (line : Text) : ℕ :=
  let record := context.record line
  Template.predictedSize (mailing.subjectFor index) record +
    Template.predictedSize mailing.body record

/-! ## Single templates -/

namespace Template

theorem placeholderBytes_eq (template : Text) :
    placeholderBytes template = ((placeholders template).map fun p => p.text.size).sum := by
  have hspan (o : Occurrence) : o.stop - o.start = o.placeholder.text.size :=
    Nat.add_sub_cancel_left _ _
  simp only [placeholderBytes, hspan, ← map_placeholder_occurrences, List.map_map]
  rfl

theorem placeholderBytes_le (template : Text) : placeholderBytes template ≤ template.size := by
  have hsize := Piece.size_flatMap_fillWith (fun _ => []) (pieces template)
  rw [flatMap_text_pieces] at hsize
  have hempty : (((pieces template).filterMap Piece.placeholder?).map fun _ =>
      Text.size []).sum = 0 := by simp
  rw [placeholderBytes_eq, placeholders]
  omega

/-- The values are counted by name, and take their place by placeholder. -/
theorem valueBytes_analyze (record : Record) (template : Text) :
    (analyze template).valueBytes record =
      ((placeholders template).map fun p => (record.get p.name).size).sum := by
  have hvalue (name : Text) : (match record.get? name with
      | some value => value.size
      | none => 0) = (record.get name).size := by
    rw [Record.get]
    cases record.get? name <;> rfl
  simp only [Analysis.valueBytes, hvalue]
  rw [sum_map_count_mul_usages_analyze fun name => (record.get name).size]
  congr 1
  refine List.map_congr_left fun p hp => ?_
  rw [get_name_eq_get_key hp]

theorem size_message_eq (record : Record) (template : Text) :
    (record.resolve template).message.size = predictedSize template record := by
  have hsize := record.size_message_resolve template
  have hle := placeholderBytes_le template
  rw [← placeholderBytes_eq, ← valueBytes_analyze] at hsize
  rw [predictedSize]
  omega

end Template

/-! ## Merges -/

namespace Mailing

variable (mailing : Mailing) (merger : Merger)

theorem size_message (context : Context) (index : ℕ) (line : Text) :
    (mailing.message context index line).size = mailing.predictedCharge context index line := by
  rw [Message.size, predictedCharge, ← Template.size_message_eq, ← Template.size_message_eq]
  rfl

/-- One step of a merge that has counted `n` bytes, by the analyses. -/
theorem mergeWithinFrom_cons_eq (limit index n : ℕ) (line : Text) (lines : List Text) :
    mailing.mergeWithinFrom merger limit index (capped n) (line :: lines) =
      let counted := capped (n + mailing.predictedCharge (merger.context index) index line)
      if limit < counted then .error ⟨limit, index⟩
      else
        (mailing.mergeWithinFrom merger limit (index + 1) counted lines).map
          (mailing.message (merger.context index) index line :: ·) := by
  rw [mergeWithinFrom_cons, ← size_message]

theorem outputSize_merge_eq (lines : List Text) :
    outputSize (mailing.merge merger lines) =
      (lines.zipIdx.map fun entry =>
        mailing.predictedCharge (merger.context entry.2) entry.2 entry.1).sum := by
  rw [merge, mergeFrom_eq_map_zipIdx, outputSize, List.map_map]
  simp only [Function.comp_def, size_message]

end Mailing

/-- **Prediction.** The size of a message is that of its template without the
placeholders, and with the size of every value as often as the analysis counts
its name. So a merge within a limit counts for a line what the analyses of its
subject and its body predict, and it succeeds exactly when what they predict for
all lines keeps to the limit. -/
theorem Template.analysis_predicts_size :
    (∀ (record : Record) (template : Text),
      placeholderBytes template ≤ template.size ∧
      (record.resolve template).message.size =
        template.size - placeholderBytes template + (analyze template).valueBytes record) ∧
    ∀ (mailing : Mailing) (merger : Merger) (limit : ℕ),
      (∀ (index n : ℕ) (line : Text) (lines : List Text),
        mailing.mergeWithinFrom merger limit index (capped n) (line :: lines) =
          let counted := capped (n + mailing.predictedCharge (merger.context index) index line)
          if limit < counted then .error ⟨limit, index⟩
          else
            (mailing.mergeWithinFrom merger limit (index + 1) counted lines).map
              (mailing.message (merger.context index) index line :: ·)) ∧
      ∀ lines, (∃ messages, mailing.mergeWithin merger limit lines = .ok messages) ↔
        min (lines.zipIdx.map fun entry =>
          mailing.predictedCharge (merger.context entry.2) entry.2 entry.1).sum
            (2 ^ 64 - 1) ≤ limit := by
  refine ⟨fun record template => ⟨placeholderBytes_le template, size_message_eq record template⟩,
    fun mailing merger limit => ⟨mailing.mergeWithinFrom_cons_eq merger limit, fun lines => ?_⟩⟩
  rw [Mailing.exists_mergeWithin_eq_ok_iff, Mailing.outputSize_merge_eq]

end FormLetter
