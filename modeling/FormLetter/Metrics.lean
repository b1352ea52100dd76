import FormLetter.Text.Basic

/-!
# Metrics

Counters of what the service has done, and how large its batches were. They are kept by recording
one event after the other. A family of metrics is registered when it is used for the first time,
and is shown from then on.

Results:

* `Family.pairwise_name`: the families are listed in the order of their names.
-/

namespace FormLetter

/-! ## Families -/

/-- A family of metrics. -/
inductive Family
  | batchSize
  | malformedRecipients
  | messagesResolved
  | recordsBuilt
  | unknownPlaceholders
  deriving DecidableEq, Repr

namespace Family

/-- All families in the order of their names. -/
def all : List Family :=
  [batchSize, malformedRecipients, messagesResolved, recordsBuilt, unknownPlaceholders]

/-- The name under which a family is registered. -/
def name : Family → Text
  | batchSize => "mailmerge_batch_size".toList
  | malformedRecipients => "mailmerge_malformed_recipients_total".toList
  | messagesResolved => "mailmerge_messages_resolved_total".toList
  | recordsBuilt => "mailmerge_records_built_total".toList
  | unknownPlaceholders => "mailmerge_unknown_placeholders_total".toList

theorem pairwise_name : (all.map name).Pairwise (· < ·) := by decide

end Family

/-- Something that is counted. -/
inductive Event
  /-- A record was built: `record_built`. -/
  | recordBuilt (malformed : Bool)
  /-- A message was resolved for an endpoint, with a number of unknown variables:
  `record_resolved`. -/
  | messageResolved (endpoint : Text) (unknown : Nat)
  /-- A batch was merged: `record_batch`. -/
  | batchMerged (size : Nat)
  deriving DecidableEq, Repr

/-- The families that are used to count an event. The number of unknown variables is added even if
it is zero. -/
def Event.families : Event → List Family
  | recordBuilt malformed =>
    if malformed then [.recordsBuilt, .malformedRecipients] else [.recordsBuilt]
  | messageResolved _ _ => [.messagesResolved, .unknownPlaceholders]
  | batchMerged _ => [.batchSize]

/-! ## Counting -/

namespace Counters

/-- Adds one to a counter in a list with increasing labels. -/
def bump (label : Text) : List (Text × Nat) → List (Text × Nat)
  | [] => [(label, 1)]
  | (l, n) :: rest =>
    if label < l then (label, 1) :: (l, n) :: rest
    else if label = l then (l, n + 1) :: rest
    else (l, n) :: bump label rest

end Counters

/-- How observed sizes are distributed. The process keeps sizes and their sum as fractions of 64
bits, which are exact for whole numbers up to `2 ^ 53`. -/
structure Histogram where
  /-- Bounds, and how many sizes were not above each of them. -/
  buckets : List (Nat × Nat)
  sum : Nat
  count : Nat
  deriving DecidableEq, Repr

namespace Histogram

/-- A histogram without observations. -/
def empty (bounds : List Nat) : Histogram := ⟨bounds.map (·, 0), 0, 0⟩

/-- The histogram with one more size. -/
def observe (h : Histogram) (size : Nat) : Histogram where
  buckets := h.buckets.map fun b => (b.1, if size ≤ b.1 then b.2 + 1 else b.2)
  sum := h.sum + size
  count := h.count + 1

end Histogram

/-- The state of all counters. -/
structure Metrics where
  /-- The families that have been used, in the order of their names. -/
  registered : List Family
  recordsBuilt : Nat
  malformedRecipients : Nat
  /-- Messages by endpoint, for endpoints with messages, in increasing order. -/
  messagesResolved : List (Text × Nat)
  unknownPlaceholders : Nat
  batchSizes : Histogram
  deriving DecidableEq, Repr

namespace Metrics

/-- The bounds of the batch sizes that are told apart. -/
def batchBounds : List Nat := [1, 10, 50, 100, 500, 1000, 5000, 10000]

/-- All counters at zero, with some families registered: all of them, or fewer if the process has
not used the others yet. -/
def zero (registered : List Family := Family.all) : Metrics :=
  ⟨Family.all.filter registered.contains, 0, 0, [], 0, .empty batchBounds⟩

/-- The metrics with some families registered. -/
def register (m : Metrics) (families : List Family) : Metrics :=
  { m with
    registered := Family.all.filter fun f => m.registered.contains f || families.contains f }

/-- The metrics after one more event, whose families are registered. -/
def count (m : Metrics) : Event → Metrics
  | .recordBuilt malformed =>
    { m with
      recordsBuilt := m.recordsBuilt + 1
      malformedRecipients := m.malformedRecipients + if malformed then 1 else 0 }
  | .messageResolved endpoint unknown =>
    { m with
      messagesResolved := Counters.bump endpoint m.messagesResolved
      unknownPlaceholders := m.unknownPlaceholders + unknown }
  | .batchMerged size => { m with batchSizes := m.batchSizes.observe size }

/-- The metrics after one more event. -/
def record (m : Metrics) (e : Event) : Metrics := (m.register e.families).count e

/-- The metrics after some events. -/
def recordAll (m : Metrics) (events : List Event) : Metrics := events.foldl record m

end Metrics

end FormLetter
