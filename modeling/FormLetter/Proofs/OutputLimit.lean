import FormLetter.Mailing
import Mathlib.Algebra.GroupWithZero.Nat
import Mathlib.Order.Monotone.Basic
import Mathlib.Tactic.Common

/-!
# Merging within a limit

Specification: `charged` is the sum of the bytes of the first messages of the
merge without a limit, and of no more than `2^64 - 1`. The merge within a limit
makes the same messages as long as this keeps to the limit, and gives up at
the first message with which it does not.

Results:

* `mergeWithin_refines_merge`: the outcome of the merge within a limit in
  terms of the merge without one.
* `mergeWithinFrom_eq_ok`, `mergeWithinFrom_eq_error`: the same for a merge
  that has counted some bytes already.
* `mergeWithin_cases`: a merge within a limit succeeds or reports the limit.
* `mergeFrom_take`: the messages for the first lines are the first messages.
-/

namespace FormLetter

/-- The bytes of the subjects and bodies of messages. -/
def outputSize (messages : List Message) : ℕ := (messages.map Message.size).sum

@[simp] theorem outputSize_nil : outputSize [] = 0 := rfl

@[simp] theorem outputSize_cons (m : Message) (messages : List Message) :
    outputSize (m :: messages) = m.size + outputSize messages := rfl

theorem outputSize_take_mono (messages : List Message) :
    Monotone fun k => outputSize (messages.take k) := by
  intro j k hjk
  simp only
  induction messages generalizing j k with
  | nil => simp
  | cons m messages ih =>
    cases j with
    | zero => simp
    | succ j =>
      obtain ⟨k, rfl⟩ : ∃ k', k = k' + 1 := ⟨k - 1, by omega⟩
      have := ih (show j ≤ k by omega)
      simp only [List.take_succ_cons, outputSize_cons]
      omega

/-! ## Counting with a cap -/

/-- A number of bytes as it is counted. -/
def capped (n : ℕ) : ℕ := min n maxCount

theorem capped_mono : Monotone capped := by
  intro m n hmn
  unfold capped
  omega

/-- Adding sizes one after the other to a capped sum gives the capped sum. -/
theorem addCounts_capped (n : ℕ) (m : Message) :
    addCounts (addCounts (capped n) m.subject.size) m.body.size = capped (n + m.size) := by
  unfold addCounts capped Message.size
  omega

/-! ## Crossing a limit -/

theorem exists_crossing {f : ℕ → ℕ} {limit n : ℕ} (h0 : f 0 ≤ limit) (hn : limit < f n) :
    ∃ k < n, f k ≤ limit ∧ limit < f (k + 1) := by
  induction n with
  | zero => omega
  | succ n ih =>
    by_cases h : limit < f n
    · obtain ⟨k, hk, hcross⟩ := ih h
      exact ⟨k, by omega, hcross⟩
    · exact ⟨n, Nat.lt_succ_self n, Nat.le_of_not_lt h, hn⟩

theorem crossing_unique {f : ℕ → ℕ} (hf : Monotone f) {limit j k : ℕ}
    (hj : f j ≤ limit ∧ limit < f (j + 1)) (hk : f k ≤ limit ∧ limit < f (k + 1)) : j = k := by
  have hjk : ¬j < k := fun h => by
    have := hf (show j + 1 ≤ k from h)
    omega
  have hkj : ¬k < j := fun h => by
    have := hf (show k + 1 ≤ j from h)
    omega
  omega

namespace Mailing

variable (mailing : Mailing) (merger : Merger)

/-! ## Both merges -/

theorem mergeFrom_take (index k : ℕ) (lines : List Text) :
    mailing.mergeFrom merger index (lines.take k) =
      (mailing.mergeFrom merger index lines).take k := by
  induction lines generalizing index k with
  | nil => simp [mergeFrom]
  | cons line lines ih =>
    cases k with
    | zero => rfl
    | succ k => rw [List.take_succ_cons, mergeFrom, mergeFrom, List.take_succ_cons, ih]

theorem merge_take (k : ℕ) (lines : List Text) :
    mailing.merge merger (lines.take k) = (mailing.merge merger lines).take k :=
  mergeFrom_take mailing merger 0 k lines

/-- One step of a merge that has counted `n` bytes. -/
theorem mergeWithinFrom_cons (limit index n : ℕ) (line : Text) (lines : List Text) :
    mailing.mergeWithinFrom merger limit index (capped n) (line :: lines) =
      let m := mailing.message (merger.context index) index line
      if limit < capped (n + m.size) then .error ⟨limit, index⟩
      else
        (mailing.mergeWithinFrom merger limit (index + 1) (capped (n + m.size)) lines).map
          (m :: ·) := by
  rw [mergeWithinFrom]
  simp only [addCounts_capped]
  split_ifs
  · rfl
  · cases mailing.mergeWithinFrom merger limit (index + 1) _ lines <;> rfl

/-- A merge that has counted `n` bytes makes the messages of the merge without
a limit if their bytes keep to it. -/
theorem mergeWithinFrom_eq_ok {limit index n : ℕ} {lines : List Text}
    (h : capped (n + outputSize (mailing.mergeFrom merger index lines)) ≤ limit) :
    mailing.mergeWithinFrom merger limit index (capped n) lines =
      .ok (mailing.mergeFrom merger index lines) := by
  induction lines generalizing index n with
  | nil => rfl
  | cons line lines ih =>
    rw [mergeFrom, outputSize_cons, ← Nat.add_assoc] at h
    have hstep := capped_mono (Nat.le_add_right
      (n + (mailing.message (merger.context index) index line).size)
      (outputSize (mailing.mergeFrom merger (index + 1) lines)))
    rw [mergeWithinFrom_cons]
    simp only
    rw [if_neg (by omega), ih h, mergeFrom]
    rfl

/-- A merge that has counted `n` bytes gives up at the message with which the
bytes exceed the limit. -/
theorem mergeWithinFrom_eq_error {limit index n k : ℕ} {lines : List Text}
    (hk : k < lines.length)
    (hle : capped (n + outputSize ((mailing.mergeFrom merger index lines).take k)) ≤ limit)
    (hlt : limit <
      capped (n + outputSize ((mailing.mergeFrom merger index lines).take (k + 1)))) :
    mailing.mergeWithinFrom merger limit index (capped n) lines =
      .error ⟨limit, index + k⟩ := by
  induction lines generalizing index n k with
  | nil => cases hk
  | cons line lines ih =>
    rw [mergeFrom, List.take_succ_cons, outputSize_cons, ← Nat.add_assoc] at hlt
    cases k with
    | zero =>
      rw [List.take_zero, outputSize_nil, Nat.add_zero] at hlt
      rw [mergeWithinFrom_cons]
      simp only
      rw [if_pos hlt, Nat.add_zero]
    | succ k =>
      rw [mergeFrom, List.take_succ_cons, outputSize_cons, ← Nat.add_assoc] at hle
      have hstep := capped_mono (Nat.le_add_right
        (n + (mailing.message (merger.context index) index line).size)
        (outputSize ((mailing.mergeFrom merger (index + 1) lines).take k)))
      rw [mergeWithinFrom_cons]
      simp only
      rw [if_neg (by omega), ih (Nat.lt_of_succ_lt_succ hk) hle hlt, Nat.add_right_comm,
        Nat.add_assoc]
      rfl

/-! ## Refinement -/

/-- The bytes counted for the first `k` messages. -/
def charged (lines : List Text) (k : ℕ) : ℕ :=
  min (outputSize ((mailing.merge merger lines).take k)) (2 ^ 64 - 1)

theorem charged_mono (lines : List Text) : Monotone (mailing.charged merger lines) :=
  capped_mono.comp (outputSize_take_mono (mailing.merge merger lines))

theorem mergeWithin_eq_ok {limit : ℕ} {lines : List Text}
    (h : mailing.charged merger lines lines.length ≤ limit) :
    mailing.mergeWithin merger limit lines = .ok (mailing.merge merger lines) := by
  apply mergeWithinFrom_eq_ok (n := 0)
  rwa [charged, List.take_of_length_le (Nat.le_of_eq (length_merge ..)),
    ← Nat.zero_add (outputSize _)] at h

theorem mergeWithin_eq_error {limit k : ℕ} {lines : List Text} (hk : k < lines.length)
    (h : mailing.charged merger lines k ≤ limit ∧
      limit < mailing.charged merger lines (k + 1)) :
    mailing.mergeWithin merger limit lines = .error ⟨limit, k⟩ := by
  obtain ⟨hle, hlt⟩ := h
  rw [charged, ← Nat.zero_add (outputSize _)] at hle hlt
  rw [← Nat.zero_add k]
  exact mergeWithinFrom_eq_error mailing merger hk hle hlt

/-- A merge within a limit makes the messages of the merge without one, or it
reports the limit because their bytes exceed it. -/
theorem mergeWithin_cases (limit : ℕ) (lines : List Text) :
    (min (outputSize (mailing.merge merger lines)) (2 ^ 64 - 1) ≤ limit ∧
        mailing.mergeWithin merger limit lines = .ok (mailing.merge merger lines)) ∨
      (limit < min (outputSize (mailing.merge merger lines)) (2 ^ 64 - 1) ∧
        ∃ merged, mailing.mergeWithin merger limit lines = .error ⟨limit, merged⟩) := by
  have hcharged : mailing.charged merger lines lines.length =
      min (outputSize (mailing.merge merger lines)) (2 ^ 64 - 1) := by
    rw [charged, List.take_of_length_le (Nat.le_of_eq (length_merge ..))]
  rw [← hcharged]
  rcases Nat.lt_or_ge limit (mailing.charged merger lines lines.length) with hlt | hle
  · have hzero : mailing.charged merger lines 0 ≤ limit := Nat.zero_le limit
    obtain ⟨k, hk, hcross⟩ := exists_crossing hzero hlt
    exact .inr ⟨hlt, k, mailing.mergeWithin_eq_error merger hk hcross⟩
  · exact .inl ⟨hle, mailing.mergeWithin_eq_ok merger hle⟩

theorem charged_take {lines : List Text} {j k : ℕ} (h : j ≤ k) :
    mailing.charged merger (lines.take k) j = mailing.charged merger lines j := by
  rw [charged, charged, merge_take, List.take_take, Nat.min_eq_left h]

/-- **Refinement.** If the bytes of all messages keep to the limit, the merge
within it makes the messages of the merge without one. Otherwise it reports
the limit and the one number `k` for which the first `k` messages keep to it
and the first `k + 1` do not; so the merge of the first `k` lines succeeds and
that of the first `k + 1` fails. A merge that succeeds does so in the same way
within every greater limit. -/
theorem mergeWithin_refines_merge (lines : List Text) (limit : ℕ) :
    (mailing.charged merger lines lines.length ≤ limit →
      mailing.mergeWithin merger limit lines = .ok (mailing.merge merger lines)) ∧
    (limit < mailing.charged merger lines lines.length →
      ∃ k, (mailing.charged merger lines k ≤ limit ∧
          limit < mailing.charged merger lines (k + 1)) ∧
        (∀ j, mailing.charged merger lines j ≤ limit ∧
          limit < mailing.charged merger lines (j + 1) → j = k) ∧
        k < lines.length ∧
        mailing.mergeWithin merger limit lines = .error ⟨limit, k⟩ ∧
        mailing.mergeWithin merger limit (lines.take k) =
          .ok ((mailing.merge merger lines).take k) ∧
        mailing.mergeWithin merger limit (lines.take (k + 1)) = .error ⟨limit, k⟩) ∧
    ∀ messages, mailing.mergeWithin merger limit lines = .ok messages →
      ∀ larger, limit ≤ larger → mailing.mergeWithin merger larger lines = .ok messages := by
  have hmono := mailing.charged_mono merger lines
  have hzero : mailing.charged merger lines 0 ≤ limit := Nat.zero_le limit
  refine ⟨mailing.mergeWithin_eq_ok merger, fun hlt => ?_, fun messages hok larger hle => ?_⟩
  · obtain ⟨k, hk, hcross⟩ := exists_crossing hzero hlt
    refine ⟨k, hcross, fun j hj => crossing_unique hmono hj hcross, hk,
      mailing.mergeWithin_eq_error merger hk hcross, ?_, ?_⟩
    · rw [← merge_take]
      apply mergeWithin_eq_ok
      rw [charged_take mailing merger (List.length_take_le k lines), List.length_take,
        Nat.min_eq_left (Nat.le_of_lt hk)]
      exact hcross.1
    · apply mergeWithin_eq_error
      · rw [List.length_take]
        omega
      · rwa [charged_take mailing merger (Nat.le_succ k), charged_take mailing merger le_rfl]
  · by_cases hlt : limit < mailing.charged merger lines lines.length
    · obtain ⟨k, hk, hcross⟩ := exists_crossing hzero hlt
      rw [mailing.mergeWithin_eq_error merger hk hcross] at hok
      cases hok
    · have hall := Nat.le_of_not_lt hlt
      rw [mailing.mergeWithin_eq_ok merger hall] at hok
      rw [mailing.mergeWithin_eq_ok merger (Nat.le_trans hall hle), hok]

end Mailing

end FormLetter
