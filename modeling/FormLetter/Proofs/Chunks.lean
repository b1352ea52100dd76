import FormLetter.Proofs.OutputLimit

/-!
# Merging in chunks

A message depends on its place in a batch in two ways: it carries its index,
and the subjects take turns. If the subjects come round exactly at the end of
the first lines, then the other lines can be merged as a batch of their own,
with what the first lines have left of a limit.

Results:

* `mergeFrom_append`: the messages for lines and more lines, in any batch.
* `subjectFor_add`: after whole rounds it is the turn of the same subject.
* `mergeFrom_add`: a batch that starts whole rounds later has the same messages
  with later indices.
* `exists_mergeWithin_eq_ok_iff`: a merge within a limit succeeds if its bytes,
  as they are counted, keep to the limit.
* `merge_append_of_dvd`: a batch is merged in two chunks.
-/

namespace FormLetter

/-! ## Specification -/

/-- The message at an index that is greater by a number of places. -/
def Message.later (places : ℕ) (m : Message) : Message := { m with index := m.index + places }

/-! ## Sizes -/

theorem outputSize_append (messages others : List Message) :
    outputSize (messages ++ others) = outputSize messages + outputSize others := by
  rw [outputSize, List.map_append, List.sum_append]
  rfl

theorem outputSize_map_later (places : ℕ) (messages : List Message) :
    outputSize (messages.map (Message.later places)) = outputSize messages := by
  rw [outputSize, List.map_map]
  rfl

namespace Mailing

/-! ## Batches -/

theorem mergeFrom_append (mailing : Mailing) (merger : Merger) (index : ℕ)
    (xs ys : List Text) :
    mailing.mergeFrom merger index (xs ++ ys) =
      mailing.mergeFrom merger index xs ++
        mailing.mergeFrom merger (index + xs.length) ys := by
  induction xs generalizing index with
  | nil => rfl
  | cons x xs ih =>
    rw [List.cons_append, mergeFrom, mergeFrom, ih, List.cons_append, List.length_cons,
      Nat.add_right_comm, Nat.add_assoc]

/-! ## Whole rounds -/

section

variable {mailing : Mailing} {places : ℕ}
  (h : mailing.subjects.length = 0 ∨ mailing.subjects.length ∣ places)
include h

theorem subjectFor_add (index : ℕ) :
    mailing.subjectFor (index + places) = mailing.subjectFor index := by
  rw [subjectFor, subjectFor]
  rcases h with hnone | ⟨rounds, rfl⟩
  · rw [List.length_eq_zero_iff.mp hnone, List.getElem?_nil, List.getElem?_nil]
  · rw [Nat.add_mul_mod_self_left]

theorem message_add (context : Context) (index : ℕ) (line : Text) :
    mailing.message context (index + places) line =
      (mailing.message context index line).later places := by
  rw [message, subjectFor_add h]
  rfl

theorem mergeFrom_add (merger : Merger) (index : ℕ) (lines : List Text) :
    mailing.mergeFrom merger (index + places) lines =
      (mailing.mergeFrom (merger.later places) index lines).map (Message.later places) := by
  induction lines generalizing index with
  | nil => rfl
  | cons line lines ih =>
    rw [mergeFrom, mergeFrom, List.map_cons, message_add h, Nat.add_right_comm, ih,
      merger.context_later]

end

/-! ## Limits -/

theorem exists_mergeWithin_eq_ok_iff {mailing : Mailing} {merger : Merger} {limit : ℕ}
    {lines : List Text} :
    (∃ messages, mailing.mergeWithin merger limit lines = .ok messages) ↔
      min (outputSize (mailing.merge merger lines)) (2 ^ 64 - 1) ≤ limit := by
  rcases mailing.mergeWithin_cases merger limit lines with ⟨hle, hok⟩ | ⟨hlt, merged, herror⟩
  · exact iff_of_true ⟨_, hok⟩ hle
  · refine iff_of_false ?_ (Nat.not_le_of_lt hlt)
    rintro ⟨messages, hok⟩
    rw [herror] at hok
    cases hok

/-- **Chunks.** If the number of subjects divides that of the first lines, or
there are no subjects, then a batch has the messages of the first lines and
after them those of the other lines, whose indices and readings of the clock go
on where the first ones end. If its bytes do not reach the greatest number that
is counted, then it keeps to a limit exactly when the first lines do and the
other lines keep to what these have left of it. With a clock that stands still
both chunks are merged alike. -/
theorem merge_append_of_dvd (mailing : Mailing) (merger : Merger) {xs ys : List Text}
    (h : mailing.subjects.length = 0 ∨ mailing.subjects.length ∣ xs.length) :
    mailing.merge merger (xs ++ ys) =
        mailing.merge merger xs ++
          (mailing.merge (merger.later xs.length) ys).map (Message.later xs.length) ∧
      (outputSize (mailing.merge merger (xs ++ ys)) < 2 ^ 64 → ∀ limit,
        (∃ messages, mailing.mergeWithin merger limit (xs ++ ys) = .ok messages) ↔
          (∃ messages, mailing.mergeWithin merger limit xs = .ok messages) ∧
            ∃ messages, mailing.mergeWithin (merger.later xs.length)
              (limit - outputSize (mailing.merge merger xs)) ys = .ok messages) := by
  have hmerge : mailing.merge merger (xs ++ ys) =
      mailing.merge merger xs ++
        (mailing.merge (merger.later xs.length) ys).map (Message.later xs.length) := by
    rw [merge, mergeFrom_append, mergeFrom_add h]
    rfl
  refine ⟨hmerge, fun hcounted limit => ?_⟩
  have hsize : outputSize (mailing.merge merger (xs ++ ys)) =
      outputSize (mailing.merge merger xs) +
        outputSize (mailing.merge (merger.later xs.length) ys) := by
    rw [hmerge, outputSize_append, outputSize_map_later]
  rw [exists_mergeWithin_eq_ok_iff, exists_mergeWithin_eq_ok_iff, exists_mergeWithin_eq_ok_iff]
  omega

/-- Two subjects come round after two lines; three messages of four bytes just
keep to a limit of twelve. -/
theorem merge_append_of_two_subjects :
    let context : Context := ⟨⟨2024, 1, 1, 0, 0, 0, 0⟩, Context.defaultUnsubscribeBase⟩
    let mailing : Mailing := ⟨["One".toList, "Two".toList], "\x7bemailname\x7d".toList⟩
    let xs := ["a@b".toList, "c@d".toList]
    let ys := ["e@f".toList]
    mailing.subjects.length ∣ xs.length ∧
      mailing.merge context (xs ++ ys) =
        mailing.merge context xs ++ (mailing.merge context ys).map (Message.later 2) ∧
      outputSize (mailing.merge context (xs ++ ys)) < 2 ^ 64 ∧
      (∃ messages, mailing.mergeWithin context 12 (xs ++ ys) = .ok messages) ∧
      ¬∃ messages, mailing.mergeWithin context 11 (xs ++ ys) = .ok messages := by
  intro context mailing xs ys
  have hdvd : mailing.subjects.length ∣ xs.length := by decide
  obtain ⟨hmerge, hlimit⟩ := @merge_append_of_dvd mailing context xs ys (.inr hdvd)
  have hxs : outputSize (mailing.merge context xs) = 8 := by decide +kernel
  have hys : outputSize (mailing.merge context ys) = 4 := by decide +kernel
  have hsize : outputSize (mailing.merge context (xs ++ ys)) < 2 ^ 64 := by decide +kernel
  refine ⟨hdvd, hmerge, hsize, ?_, ?_⟩
  · rw [hlimit hsize, exists_mergeWithin_eq_ok_iff, exists_mergeWithin_eq_ok_iff,
      Merger.later_ofContext, hxs, hys]
    decide
  · rw [hlimit hsize, exists_mergeWithin_eq_ok_iff, exists_mergeWithin_eq_ok_iff,
      Merger.later_ofContext, hxs, hys]
    decide

end Mailing

end FormLetter
