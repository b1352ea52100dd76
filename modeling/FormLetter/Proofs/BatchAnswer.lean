import FormLetter.Proofs.MergedMessages
import FormLetter.Proofs.OutputLimit
import FormLetter.Proofs.Posting
import FormLetter.Proofs.RecipientLines
import FormLetter.Proofs.ShownAnswers
import FormLetter.Proofs.WrittenForms

/-!
# The answer to a batch

A batch is turned down if it has no template, no recipients, too many
recipients or too much output, in this order; otherwise all its lines are
merged.

Specification: `BatchRequest.decision` is what has to be decided about a batch,
in terms of its lines and of their merge without a limit, and
`BatchRequest.IsAnswer` says of a response that a client can read the decision
off its members. `PostsBatch` says of a request over HTTP that it reaches the
action with a batch.

Results:

* `mergeBatch_eq_decision`: the action decides about a batch as it has to.
* `isAnswer_outcome`: a client is told the decision.
* `respond_of_postsBatch`: what follows from a request that posts a batch.
* `postsBatch_toJson`: a batch can be posted unless its form is too long.
* `respond_batch_eq_decision`: the answer to a batch, and that it does not
  matter whether the recipients are given one by one or as a file.
-/

namespace FormLetter.Service

open Http
open Json (field)

/-! ## Specification -/

/-- The response that tells a client what is wrong with its request. -/
def validationError (message : Text) : Response :=
  jsonResponse 400 <|
    .object
      [field "success" (.bool false),
        field "error"
          (.object
            [field "code" (.text "VALIDATION_ERROR".toList), field "message" (.text message)])]

namespace BatchRequest

variable (settings : MergeSettings) (merger : Merger) (batch : BatchRequest)

/-- The lines of a batch: the recipients given one by one, and then those of
the file. -/
def givenLines : List Text :=
  Text.trimmed batch.recipients ++
    match batch.recipientsFile with
    | some file => recipientLines file
    | none => []

/-- The decision about a batch: its messages, or what is wrong with it. -/
def decision : Except Text (List Message) :=
  match batch.template with
  | none => .error "Template is required".toList
  | some body =>
    let lines := batch.givenLines
    let messages := Mailing.merge ⟨batch.subjects, body⟩ merger lines
    if body.all Text.isBlank then .error "Template is required".toList
    else if lines = [] then .error "At least one recipient is required".toList
    else if settings.maxBatchSize < lines.length then
      .error
        ("Batch of ".toList ++ Text.ofNat lines.length ++
          " recipients exceeds the limit of ".toList ++ Text.ofNat settings.maxBatchSize)
    else if settings.maxOutputBytes < min (outputSize messages) (2 ^ 64 - 1) then
      .error
        ("Merged output exceeds the limit of ".toList ++ Text.ofNat settings.maxOutputBytes ++
          " bytes".toList)
    else .ok messages

/-- A client can read the decision about a batch off the members of the
response. If the batch is served, they show as many messages as the batch has
lines, one after the other. -/
def IsAnswer (response : Response) : Prop :=
  match batch.decision settings merger with
  | .error reason => response = validationError reason
  | .ok messages =>
    response.IsSuccess ∧
      response.value.get? "total" = some (.integer batch.givenLines.length) ∧
      ∃ shown, response.value.get? "messages" = some (.list shown) ∧
        List.Forall₂ Message.IsShownAs messages shown

/-- What follows when the service has read a batch. -/
def outcome : Outcome :=
  match mergeBatch settings merger batch with
  | .ok messages =>
    ⟨jsonResponse 200 (Answer.merged messages).toJson, (Answer.merged messages).events⟩
  | .error reason => ⟨(Refusal.rejected reason).response, []⟩

end BatchRequest

/-- The request reaches the action that merges batches, and its body is the
form of a batch. -/
structure PostsBatch (settings : Settings) (r : Http.Request) (batch : BatchRequest) : Prop where
  method_eq : r.method = "POST".toList
  path_eq : r.path = Action.mergeBatch.path
  not_announcesTooMuch : announcesTooMuch settings r = false
  bringsJson : bringsJson r = true
  length_le : r.body.length ≤ bodyLimit settings r
  read_eq : BatchRequest.read r.body = .ok batch

/-! ## Batches -/

namespace BatchRequest

variable (settings : MergeSettings) (merger : Merger) (batch : BatchRequest)

theorem lines_eq_givenLines : batch.lines = batch.givenLines := by
  rw [lines, Text.filter_map_trim, givenLines]
  cases batch.recipientsFile <;> rfl

theorem lines_listed (subjects : List Text) (template : Option Text) (entries : List Text) :
    (⟨subjects, template, entries, none⟩ : BatchRequest).lines = Text.trimmed entries := by
  rw [lines_eq_givenLines, givenLines, List.append_nil]

theorem lines_joined (subjects : List Text) (template : Option Text) {entries : List Text}
    (h : ∀ e ∈ entries, '\n' ∉ e) :
    (⟨subjects, template, [], some (['\n'].intercalate entries)⟩ : BatchRequest).lines =
      Text.trimmed entries := by
  rw [lines_eq_givenLines, givenLines, ← recipientLines_intercalate h]
  rfl

/-- What is done with a batch that has a template. -/
theorem mergeBatch_of_template {body : Text} (htemplate : batch.template = some body)
    (hblank : ¬body.all Text.isBlank = true) :
    mergeBatch settings merger batch =
      if batch.givenLines = [] then .error .recipientRequired
      else if settings.maxBatchSize < batch.givenLines.length then
        .error (.batchTooLarge batch.givenLines.length settings.maxBatchSize)
      else
        (Mailing.mergeWithin ⟨batch.subjects, body⟩ merger settings.maxOutputBytes
          batch.givenLines).mapError .outputTooLarge := by
  rw [← Text.isBlankText_eq_all] at hblank
  rw [mergeBatch, lines_eq_givenLines, htemplate, required, if_neg hblank]
  simp only [List.isEmpty_iff]
  rfl

/-- The action decides about a batch as it has to. -/
theorem mergeBatch_eq_decision :
    (mergeBatch settings merger batch).mapError Rejection.message =
      batch.decision settings merger := by
  rw [decision]
  cases htemplate : batch.template with
  | none =>
    rw [mergeBatch, htemplate]
    rfl
  | some body =>
    simp only
    by_cases hblank : body.all Text.isBlank = true
    · rw [if_pos hblank]
      rw [← Text.isBlankText_eq_all] at hblank
      rw [mergeBatch, htemplate, required, if_pos hblank]
      rfl
    rw [mergeBatch_of_template settings merger batch htemplate hblank, if_neg hblank]
    by_cases hlines : batch.givenLines = []
    · rw [if_pos hlines, if_pos hlines]
      rfl
    rw [if_neg hlines, if_neg hlines]
    by_cases hsize : settings.maxBatchSize < batch.givenLines.length
    · rw [if_pos hsize, if_pos hsize]
      rfl
    rw [if_neg hsize, if_neg hsize]
    rcases Mailing.mergeWithin_cases ⟨batch.subjects, body⟩ merger settings.maxOutputBytes
      batch.givenLines with ⟨hle, hok⟩ | ⟨hlt, merged, herror⟩
    · rw [hok, if_neg (Nat.not_lt.mpr hle)]
      rfl
    · rw [herror, if_pos hlt]
      rfl

variable {settings merger batch}

/-- A batch that is served is merged without regard to the limit. -/
theorem eq_merge_of_mergeBatch {messages : List Message}
    (h : mergeBatch settings merger batch = .ok messages) :
    ∃ mailing, messages = Mailing.merge mailing merger batch.givenLines := by
  have hdecision : batch.decision settings merger = .ok messages := by
    rw [← mergeBatch_eq_decision, h]
    rfl
  rw [decision] at hdecision
  split at hdecision
  · cases hdecision
  · next body hbody =>
    simp only at hdecision
    split_ifs at hdecision
    cases hdecision
    exact ⟨_, rfl⟩

variable (settings merger batch)

/-- A client is told the decision about a batch. -/
theorem isAnswer_outcome :
    batch.IsAnswer settings merger (batch.outcome settings merger).response := by
  rw [IsAnswer, outcome, ← mergeBatch_eq_decision]
  cases hmessages : mergeBatch settings merger batch with
  | error reason => rfl
  | ok messages =>
    obtain ⟨mailing, rfl⟩ := eq_merge_of_mergeBatch hmessages
    refine ⟨⟨rfl, rfl⟩, ?_, _, rfl, Message.forall₂_isShownAs _⟩
    rw [← mailing.length_merge merger batch.givenLines]
    rfl

/-- Batches with the same lines have the same outcome. -/
theorem outcome_congr {batch batch' : BatchRequest} (hsubjects : batch.subjects = batch'.subjects)
    (htemplate : batch.template = batch'.template) (hlines : batch.lines = batch'.lines) :
    batch.outcome settings merger = batch'.outcome settings merger := by
  rw [outcome, outcome, mergeBatch, mergeBatch, hsubjects, htemplate, hlines]

end BatchRequest

/-! ## Requests -/

theorem PostsBatch.reaches {settings : Settings} {r : Http.Request} {batch : BatchRequest}
    (h : PostsBatch settings r batch) : Reaches settings r .mergeBatch :=
  ⟨h.method_eq, h.path_eq, h.not_announcesTooMuch, h.bringsJson, h.length_le⟩

/-- What follows from a request that posts a batch. -/
theorem respond_of_postsBatch {settings : Settings} {r : Http.Request} {batch : BatchRequest}
    (h : PostsBatch settings r batch) (moment : Moment) (metrics : Metrics) :
    respond settings moment metrics r =
      batch.outcome settings.merge (merger settings.merge moment.clock) := by
  rw [respond_of_reaches h.reaches, perform, h.read_eq, process, BatchRequest.outcome]
  cases mergeBatch settings.merge (merger settings.merge moment.clock) batch <;> rfl

/-- A request that posts JSON to the action. -/
def batchPost (json : Text) : Http.Request :=
  ⟨"POST".toList, Action.mergeBatch.path, [contentType jsonType], json.utf8⟩

/-- A form of a batch that is not too long can be posted. -/
theorem postsBatch_batchPost {settings : Settings} {json : Text} {batch : BatchRequest}
    (hsize : json.size ≤ settings.server.maxBodyBytes)
    (hread : BatchRequest.read json.utf8 = .ok batch) :
    PostsBatch settings (batchPost json) batch :=
  have h : Reaches settings (batchPost json) .mergeBatch := reaches_jsonPost .mergeBatch hsize
  ⟨h.method_eq, h.path_eq, h.not_announcesTooMuch, h.bringsJson, h.length_le, hread⟩

/-- A batch can be posted unless its form is too long. -/
theorem postsBatch_toJson {settings : Settings} {batch : BatchRequest}
    (hsize : (Json.print batch.toJson).size ≤ settings.server.maxBodyBytes) :
    PostsBatch settings (batchPost (Json.print batch.toJson)) batch :=
  postsBatch_batchPost hsize batch.read_toJson

/-- **The answer to a batch.** Every request that posts a batch is answered as
`decision` says, whatever the settings and the batch: a client reads off the
members of the response what is wrong, or as many messages as the batch has
lines, of which each shows the message of the merge without a limit. This merge
makes one message for every line, in order. Every batch can be posted unless
its form is too long. Recipients without line feeds may be given one by one or
as a file. -/
theorem respond_batch_eq_decision (settings : Settings) (moment : Moment) (metrics : Metrics) :
    let merger := merger settings.merge moment.clock
    (∀ r batch, PostsBatch settings r batch →
      batch.IsAnswer settings.merge merger (respond settings moment metrics r).response ∧
        respond settings moment metrics r = batch.outcome settings.merge merger) ∧
    (∀ batch : BatchRequest,
      batch.IsAnswer settings.merge merger (batch.outcome settings.merge merger).response) ∧
    (∀ (mailing : Mailing) (lines : List Text), mailing.merge merger lines =
      lines.zipIdx.map fun entry =>
        mailing.message (merger.context entry.2) entry.2 entry.1) ∧
    (∀ batch : BatchRequest,
      (Json.print batch.toJson).size ≤ settings.server.maxBodyBytes →
        PostsBatch settings (batchPost (Json.print batch.toJson)) batch) ∧
    ∀ subjects template entries, (∀ e ∈ entries, '\n' ∉ e) →
      BatchRequest.outcome settings.merge merger ⟨subjects, template, entries, none⟩ =
        BatchRequest.outcome settings.merge merger
          ⟨subjects, template, [], some (['\n'].intercalate entries)⟩ := by
  intro merger
  have hanswer (batch : BatchRequest) :
      batch.IsAnswer settings.merge merger (batch.outcome settings.merge merger).response :=
    batch.isAnswer_outcome settings.merge merger
  refine ⟨fun r batch h => ?_, hanswer,
    fun mailing lines => mailing.mergeFrom_eq_map_zipIdx merger 0 lines,
    fun batch => postsBatch_toJson, ?_⟩
  · rw [respond_of_postsBatch h]
    exact ⟨hanswer batch, rfl⟩
  · intro subjects template entries h
    refine BatchRequest.outcome_congr settings.merge merger rfl rfl ?_
    rw [BatchRequest.lines_listed, BatchRequest.lines_joined subjects template h]

/-- Two recipients, one of them with blanks around it, given either way. The
first message is shown with its address and its body. -/
theorem respond_listed_eq_respond_joined :
    let listed := batchPost
      "\x7b\"template\":\"Hi\",\"recipients\":[\"a@b.c\",\" d@e.f \"]\x7d".toList
    let joined := batchPost
      "\x7b\"template\":\"Hi\",\"recipientsText\":\"a@b.c\\n d@e.f \"\x7d".toList
    let now : Calendar.Instant := ⟨2024, 1, 1, 0, 0, 0, 0⟩
    let moment : Moment := ⟨now, 0⟩
    let response := (respond {} moment .zero listed).response
    response.status = 200 ∧ response.value.get? "total" = some (.integer 2) ∧
      (∃ first second, response.value.get? "messages" = some (.list [first, second]) ∧
        first.get? "email" = some (.text "a@b.c".toList) ∧
        second.get? "email" = some (.text "d@e.f".toList) ∧
        second.get? "body" = some (.text "Hi".toList)) ∧
      respond {} moment .zero listed = respond {} moment .zero joined := by
  intro listed joined now moment response
  let batch : BatchRequest :=
    ⟨[], some "Hi".toList, ["a@b.c".toList, " d@e.f ".toList], none⟩
  have hlisted : PostsBatch {} listed batch :=
    postsBatch_batchPost (by decide) (by decide +kernel)
  have hjoined : PostsBatch {} joined
      ⟨[], some "Hi".toList, [], some (['\n'].intercalate ["a@b.c".toList, " d@e.f ".toList])⟩ :=
    postsBatch_batchPost (by decide) (by decide +kernel)
  obtain ⟨hrespond, -, -, -, hfile⟩ := respond_batch_eq_decision {} moment .zero
  obtain ⟨hanswer, hlistedOutcome⟩ := hrespond _ _ hlisted
  obtain ⟨-, hjoinedOutcome⟩ := hrespond _ _ hjoined
  let messages := Mailing.merge ⟨[], "Hi".toList⟩ (merger {} now) ["a@b.c".toList, "d@e.f".toList]
  have hdecision : batch.decision {} (merger {} now) = .ok messages := by decide +kernel
  rw [BatchRequest.IsAnswer, hdecision] at hanswer
  obtain ⟨hsuccess, htotal, shown, hshown, hmessages⟩ := hanswer
  obtain ⟨first, others, hfirst, hothers, rfl⟩ := List.forall₂_cons_left_iff.mp hmessages
  obtain ⟨second, rest, hsecond, hrest, rfl⟩ := List.forall₂_cons_left_iff.mp hothers
  obtain rfl : rest = [] := List.forall₂_nil_left_iff.mp hrest
  refine ⟨hsuccess.status_eq, htotal, ⟨first, second, hshown, ?_, ?_, ?_⟩, ?_⟩
  · rw [hfirst.email_eq, Option.some.injEq, Json.text.injEq]
    decide +kernel
  · rw [hsecond.email_eq, Option.some.injEq, Json.text.injEq]
    decide +kernel
  · rw [hsecond.body_eq, Option.some.injEq, Json.text.injEq]
    decide +kernel
  · rw [hlistedOutcome, hjoinedOutcome]
    exact hfile [] (some "Hi".toList) ["a@b.c".toList, " d@e.f ".toList] (by decide)

end FormLetter.Service
