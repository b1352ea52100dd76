import FormLetter.Resolution

/-!
# Mailings

A mailing is a body and some subjects, written as templates. Merging it with recipient lines makes
one message per line, in order; the subjects take turns. A merge can be held to a limit on the
bytes of all subjects and bodies.

Results:

* `length_merge`: a merge makes one message per line.
-/

namespace FormLetter

/-- The subjects, which take turns, and the body of the messages to all recipients: a
`MessageTemplate`. -/
structure Mailing where
  subjects : List Text := []
  body : Text
  deriving DecidableEq, Repr

/-- A message to one recipient: a `MergedMessage`. -/
structure Message where
  index : Nat
  email : Text
  subject : Text
  body : Text
  /-- Whether the address had no at sign. -/
  malformed : Bool
  /-- Variables of the subject or the body that the recipient lacks, in increasing order. -/
  unknown : List Text
  deriving DecidableEq, Repr

/-- A merge that would have made more text than allowed: an `OutputLimitExceeded`. -/
structure OutputLimitExceeded where
  limit : Nat
  /-- The number of messages before the one that crossed the limit. -/
  merged : Nat
  deriving DecidableEq, Repr

/-- What is reported to the sender when a merge would have made too much text. -/
def OutputLimitExceeded.message (e : OutputLimitExceeded) : Text :=
  "Merged output exceeds the limit of ".toList ++ Text.ofNat e.limit ++ " bytes".toList

/-- The bytes of subject and body. -/
def Message.size (m : Message) : Nat := m.subject.size + m.body.size

/-- The greatest number of bytes that is counted; larger sums count as this one. -/
def maxCount : Nat := UInt64.size - 1

/-- The sum of two numbers of bytes as it is counted. -/
def addCounts (m n : Nat) : Nat := min (m + n) maxCount

/-- What mailings are merged with: a clock, which is read anew for every line, and the page on
which recipients unsubscribe. This is the facade `MailMerge`. -/
structure Merger where
  clock : Calendar.Clock
  unsubscribeBase : Text

namespace Merger

/-- What a recipient is merged with at one of the readings of the clock. -/
def context (merger : Merger) (reading : Nat) : Context :=
  ⟨merger.clock.reading reading, merger.unsubscribeBase⟩

/-- The merger whose clock stands still. -/
@[coe] def ofContext (context : Context) : Merger := ⟨context.now, context.unsubscribeBase⟩

instance : Coe Context Merger := ⟨ofContext⟩

/-- The merger after some readings of the clock. -/
def later (merger : Merger) (readings : Nat) : Merger :=
  { merger with clock := merger.clock.later readings }

@[simp] theorem later_ofContext (context : Context) (readings : Nat) :
    (ofContext context).later readings = ofContext context := rfl

theorem context_later (merger : Merger) (readings reading : Nat) :
    (merger.later readings).context reading = merger.context (reading + readings) := rfl

end Merger

namespace Mailing

/-- The subject of a mailing without one. -/
def defaultSubject : Text := "Message from Mail Merge".toList

/-- The subject template for the recipient at an index: `subject_for`. -/
def subjectFor (mailing : Mailing) (index : Nat) : Text :=
  (mailing.subjects[index % mailing.subjects.length]?).getD defaultSubject

/-- The message for the recipient line at an index: `merge_one`. -/
def message (mailing : Mailing) (context : Context) (index : Nat) (line : Text) : Message :=
  let record := context.record line
  let subject := record.resolve (mailing.subjectFor index)
  let body := record.resolve mailing.body
  { index
    email := record.email
    subject := subject.message
    body := body.message
    malformed := record.malformed
    unknown := Names.union subject.unknown body.unknown }

/-- The messages for recipient lines of which the first has an index. -/
def mergeFrom (mailing : Mailing) (merger : Merger) (index : Nat) : List Text → List Message
  | [] => []
  | line :: lines =>
    mailing.message (merger.context index) index line ::
      mailing.mergeFrom merger (index + 1) lines

/-- The messages for recipient lines (`merge_batch`). -/
def merge (mailing : Mailing) (merger : Merger) (lines : List Text) : List Message :=
  mailing.mergeFrom merger 0 lines

/-- The messages for recipient lines of which the first has an index, if they keep to a limit
together with the bytes counted so far. This is the loop of `merge_batch_bounded`, which stops at
the message that crosses the limit. -/
def mergeWithinFrom (mailing : Mailing) (merger : Merger) (limit index counted : Nat) :
    List Text → Except OutputLimitExceeded (List Message)
  | [] => .ok []
  | line :: lines =>
    let m := mailing.message (merger.context index) index line
    let total := addCounts (addCounts counted m.subject.size) m.body.size
    if limit < total then .error ⟨limit, index⟩
    else
      match mailing.mergeWithinFrom merger limit (index + 1) total lines with
      | .ok messages => .ok (m :: messages)
      | .error e => .error e

/-- The messages for recipient lines, if their subjects and bodies together keep to a limit
(`merge_batch_bounded`). -/
def mergeWithin (mailing : Mailing) (merger : Merger) (limit : Nat) (lines : List Text) :
    Except OutputLimitExceeded (List Message) :=
  mailing.mergeWithinFrom merger limit 0 0 lines

theorem length_mergeFrom (mailing : Mailing) (merger : Merger) (index : Nat)
    (lines : List Text) : (mailing.mergeFrom merger index lines).length = lines.length := by
  induction lines generalizing index with
  | nil => rfl
  | cons line lines ih => simp [mergeFrom, ih]

theorem length_merge (mailing : Mailing) (merger : Merger) (lines : List Text) :
    (mailing.merge merger lines).length = lines.length :=
  length_mergeFrom mailing merger 0 lines

end Mailing

/-- The recipient lines of a file: its lines without the blanks around them, empty ones left out.
This is `parse_recipient_list`. -/
def recipientLines (file : Text) : List Text := file.trimmedLines

end FormLetter
