import FormLetter.Analysis
import FormLetter.Mailing
import FormLetter.Metrics
import FormLetter.Service.Requests
import FormLetter.Settings

/-!
# Answers of the service

What the service answers to the requests that are posted to it: a result, or the reason why the
request cannot be served. Only requests that are served count in the metrics.
-/

namespace FormLetter.Service

/-- Why a request cannot be served. -/
inductive Rejection
  | recipientLineRequired
  | templateAndLineRequired
  | templateRequired
  | recipientRequired
  | batchTooLarge (size limit : Nat)
  | outputTooLarge (e : OutputLimitExceeded)
  deriving DecidableEq, Repr

/-- The reason in words. -/
def Rejection.message : Rejection → Text
  | recipientLineRequired => "Recipient line is required".toList
  | templateAndLineRequired => "Template and recipient line are required".toList
  | templateRequired => "Template is required".toList
  | recipientRequired => "At least one recipient is required".toList
  | batchTooLarge size limit =>
    "Batch of ".toList ++ Text.ofNat size ++ " recipients exceeds the limit of ".toList ++
      Text.ofNat limit
  | outputTooLarge e => e.message

/-- A text that is there and not blank: `required`. -/
def required (reason : Rejection) (t : Option Text) : Except Rejection Text :=
  match t with
  | some t => if t.isBlankText then .error reason else .ok t
  | none => .error reason

/-! ## Answers -/

/-- A template resolved for a recipient, with the record of the recipient. -/
structure Applied where
  record : Record
  resolution : Resolution
  deriving DecidableEq, Repr

/-- What is answered to a request that is served. -/
inductive Answer
  | parsed (record : Record)
  | applied (a : Applied)
  | merged (messages : List Message)
  | analyzed (analysis : Analysis)
  deriving DecidableEq, Repr

/-- What counts for a message of a batch. -/
def messageEvents (m : Message) : List Event :=
  [.recordBuilt m.malformed, .messageResolved "batch".toList m.unknown.length]

/-- What counts when an answer is given: the calls of `record_batch`, `record_built` and
`record_resolved` in the handlers. -/
def Answer.events : Answer → List Event
  | parsed record => [.recordBuilt record.malformed]
  | applied a =>
    [.recordBuilt a.record.malformed,
      .messageResolved "apply".toList a.resolution.unknown.length]
  | merged messages => .batchMerged messages.length :: messages.flatMap messageEvents
  | analyzed _ => []

/-! ## Requests -/

/-- The record of a recipient: the handler `parse_recipient`. -/
def parseRecipient (context : Context) (request : ParseRequest) : Except Rejection Record :=
  (required .recipientLineRequired request.line).map context.record

/-- The template resolved for a recipient: the handler `apply_merge`. A blank template will do, an
empty one will not. -/
def applyMerge (context : Context) (request : ApplyRequest) : Except Rejection Applied :=
  match request.template, request.line with
  | some template, some line =>
    if template.isEmpty || line.isBlankText then .error .templateAndLineRequired
    else
      let record := context.record line
      .ok ⟨record, record.resolve template⟩
  | _, _ => .error .templateAndLineRequired

/-- The recipient lines of a batch: those given one by one, without the blanks around them and
empty ones left out, and then those of the file. -/
def BatchRequest.lines (request : BatchRequest) : List Text :=
  ((request.recipients.map Text.trim).filter fun line => !line.isEmpty) ++
    (request.recipientsFile.map recipientLines).getD []

/-- The messages of a batch: the handler `merge_batch`. -/
def mergeBatch (settings : MergeSettings) (merger : Merger) (request : BatchRequest) :
    Except Rejection (List Message) := do
  let body ← required .templateRequired request.template
  let lines := request.lines
  if lines.isEmpty then .error .recipientRequired
  else if settings.maxBatchSize < lines.length then
    .error (.batchTooLarge lines.length settings.maxBatchSize)
  else
    (Mailing.mergeWithin ⟨request.subjects, body⟩ merger settings.maxOutputBytes lines).mapError
      .outputTooLarge

/-- The analysis of a template, for a recipient if the line is there and not blank: the handler
`analyze_variables`. -/
def analyzeVariables (context : Context) (request : AnalyzeRequest) :
    Except Rejection Analysis :=
  match request.template, request.line with
  | none, _ => .error .templateRequired
  | some template, none => .ok (Template.analyze template)
  | some template, some line =>
    if line.isBlankText then .ok (Template.analyze template)
    else .ok (Template.analyzeFor template (context.record line))

end FormLetter.Service
