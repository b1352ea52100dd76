import FormLetter.Metrics
import FormLetter.Proofs.Variables
import Mathlib.Algebra.BigOperators.Group.List.Basic
import Mathlib.Algebra.GroupWithZero.Nat

/-!
# What events count for

Recording events adds to every counter what the single events count for.

Specification: `Event.weight` says what an event counts for, and
`Metrics.value` reads a counter.

Results:

* `lookup_bump`: a counter with a label goes up by one, the others stay.
* `IsSound.recordAll`: labels stay in order, and no more recipients are
  malformed than records are built.
* `value_recordAll`: a counter goes up by the weights of the events.
-/

namespace FormLetter

/-! ## Specification -/

/-- A number that the metrics keep. -/
inductive Counter
  | recordsBuilt
  | malformedRecipients
  | resolved (endpoint : Text)
  | unknownPlaceholders
  | batchSum
  | batchCount

/-- What an event counts for. -/
def Event.weight : Event → Counter → ℕ
  | .recordBuilt _, .recordsBuilt => 1
  | .recordBuilt malformed, .malformedRecipients => if malformed then 1 else 0
  | .messageResolved label _, .resolved endpoint => if endpoint = label then 1 else 0
  | .messageResolved _ unknown, .unknownPlaceholders => unknown
  | .batchMerged size, .batchSum => size
  | .batchMerged _, .batchCount => 1
  | _, _ => 0

/-- What some events count for. -/
def Counter.weigh (c : Counter) (events : List Event) : ℕ := (events.map (·.weight c)).sum

namespace Metrics

/-- The number of messages resolved for an endpoint. -/
def resolved (m : Metrics) (endpoint : Text) : ℕ := (m.messagesResolved.lookup endpoint).getD 0

/-- The value of a counter. -/
def value (m : Metrics) : Counter → ℕ
  | .recordsBuilt => m.recordsBuilt
  | .malformedRecipients => m.malformedRecipients
  | .resolved endpoint => m.resolved endpoint
  | .unknownPlaceholders => m.unknownPlaceholders
  | .batchSum => m.batchSizes.sum
  | .batchCount => m.batchSizes.count

/-- The labels are in increasing order, and no more recipients are malformed
than records are built. -/
structure IsSound (m : Metrics) : Prop where
  labels : (m.messagesResolved.map Prod.fst).Pairwise (· < ·)
  malformed_le : m.malformedRecipients ≤ m.recordsBuilt

end Metrics

/-! ## Labels -/

namespace Counters

theorem map_fst_bump (label : Text) (counters : List (Text × ℕ)) :
    (bump label counters).map Prod.fst = Names.insert label (counters.map Prod.fst) := by
  induction counters with
  | nil => rfl
  | cons counter rest ih =>
    obtain ⟨k, n⟩ := counter
    rw [bump, List.map_cons, Names.insert]
    split_ifs with hlt heq
    · rfl
    · rfl
    · rw [List.map_cons, ih]

/-- The counter with the label goes up by one, and the others stay. -/
theorem lookup_bump {label : Text} {counters : List (Text × ℕ)}
    (h : (counters.map Prod.fst).Pairwise (· < ·)) (endpoint : Text) :
    ((bump label counters).lookup endpoint).getD 0 =
      (counters.lookup endpoint).getD 0 + if endpoint = label then 1 else 0 := by
  induction counters with
  | nil =>
    rw [bump, Variables.lookup_cons]
    split_ifs <;> rfl
  | cons counter rest ih =>
    obtain ⟨k, n⟩ := counter
    by_cases hlt : label < k
    · -- A label that comes first in order has no counter yet.
      have hpairwise : (Names.insert label (((k, n) :: rest).map Prod.fst)).Pairwise (· < ·) :=
        Names.pairwise_insert h
      rw [List.map_cons, Names.insert, if_pos hlt] at hpairwise
      have hnone : ((k, n) :: rest).lookup label = none := by
        rw [Variables.lookup_eq_none_iff]
        intro hmem
        exact List.lt_irrefl label ((List.pairwise_cons.mp hpairwise).1 label hmem)
      rw [bump, if_pos hlt, Variables.lookup_cons]
      by_cases he : endpoint = label
      · rw [if_pos he, if_pos he, he, hnone]
        rfl
      · rw [if_neg he, if_neg he, Nat.add_zero]
    by_cases hlabel : label = k
    · subst hlabel
      rw [bump, if_neg hlt, if_pos rfl, Variables.lookup_cons, Variables.lookup_cons]
      split_ifs <;> rfl
    · rw [bump, if_neg hlt, if_neg hlabel, Variables.lookup_cons, Variables.lookup_cons]
      by_cases he : endpoint = k
      · have hother : endpoint ≠ label := fun h => hlabel (h.symm.trans he)
        rw [if_pos he, if_pos he, if_neg hother, Nat.add_zero]
      · rw [if_neg he, if_neg he, ih (List.pairwise_cons.mp h).2]

end Counters

/-! ## Single events -/

namespace Metrics

variable {m : Metrics}

theorem isSound_zero (registered : List Family) : IsSound (zero registered) :=
  ⟨List.Pairwise.nil, Nat.le_refl 0⟩

theorem IsSound.record (h : m.IsSound) (e : Event) : (m.record e).IsSound := by
  have hle := h.malformed_le
  cases e with
  | recordBuilt malformed =>
    refine ⟨h.labels, ?_⟩
    show m.malformedRecipients + (if malformed then 1 else 0) ≤ m.recordsBuilt + 1
    split_ifs <;> omega
  | messageResolved label unknown =>
    refine ⟨?_, hle⟩
    show ((Counters.bump label m.messagesResolved).map Prod.fst).Pairwise (· < ·)
    rw [Counters.map_fst_bump]
    exact Names.pairwise_insert h.labels
  | batchMerged size => exact ⟨h.labels, hle⟩

theorem value_record (h : m.IsSound) (e : Event) (c : Counter) :
    (m.record e).value c = m.value c + e.weight c := by
  cases e with
  | recordBuilt malformed => cases c <;> rfl
  | messageResolved label unknown =>
    cases c with
    | resolved endpoint => exact Counters.lookup_bump h.labels endpoint
    | _ => rfl
  | batchMerged size => cases c <;> rfl

/-! ## Some events -/

theorem IsSound.recordAll (h : m.IsSound) (events : List Event) : (m.recordAll events).IsSound := by
  unfold Metrics.recordAll
  induction events generalizing m with
  | nil => exact h
  | cons e events ih => exact ih (h.record e)

theorem value_recordAll (h : m.IsSound) (events : List Event) (c : Counter) :
    (m.recordAll events).value c = m.value c + c.weigh events := by
  unfold Metrics.recordAll Counter.weigh
  induction events generalizing m with
  | nil => rfl
  | cons e events ih =>
    rw [List.foldl_cons, ih (h.record e), value_record h, List.map_cons, List.sum_cons,
      Nat.add_assoc]

end Metrics

end FormLetter
