import FormLetter.Proofs.BatchAnswer
import FormLetter.Proofs.Missing
import FormLetter.Proofs.Trimming

/-!
# One recipient at three actions

A template and a recipient can be posted to resolve the template, to merge a
batch of this one recipient, and to analyse the template for the recipient.
The actions check and trim what is posted in different ways, and each of them
has an algorithm of its own. They agree nevertheless.

Results:

* `applyMerge_of_not_blank`, `analyzeVariables_of_not_blank`: the actions take
  every template and every line that are not blank.
* `decision_of_one`: a batch of one recipient is answered with one message.
* `actions_agree`: the actions agree about the template and the recipient.
-/

namespace FormLetter

/-! ## Blanks around a line -/

/-- The blanks around a line do not count. -/
theorem Context.record_trim (context : Context) (line : Text) :
    context.record line.trim = context.record line := by
  unfold record Recipient.Line.read
  rw [Text.trim_trim]

theorem Mailing.message_trim (mailing : Mailing) (context : Context) (index : ℕ) (line : Text) :
    mailing.message context index line.trim = mailing.message context index line := by
  unfold message
  rw [context.record_trim]

/-- The first message has the first subject. -/
theorem Mailing.subjectFor_zero (mailing : Mailing) :
    mailing.subjectFor 0 = mailing.subjects.head?.getD defaultSubject := by
  unfold subjectFor
  cases mailing.subjects with
  | nil => simp
  | cons subject subjects => simp

namespace Service

open Http
open Json (field)

/-! ## The actions one by one -/

section

variable (context : Context) {template line : Text}

theorem applyMerge_of_not_blank (htemplate : ¬template.all Text.isBlank = true)
    (hline : ¬line.all Text.isBlank = true) :
    applyMerge context ⟨some template, some line⟩ =
      .ok ⟨context.record line, (context.record line).resolve template⟩ := by
  have hempty : template.isEmpty = false := by
    cases template with
    | nil => exact absurd rfl htemplate
    | cons => rfl
  have hblank : line.isBlankText = false := by
    rw [Text.isBlankText_eq_all]
    exact Bool.eq_false_of_not_eq_true hline
  simp only [applyMerge, hempty, hblank, Bool.or_false, Bool.false_eq_true, if_false]

theorem analyzeVariables_of_not_blank (template : Text) (hline : ¬line.all Text.isBlank = true) :
    analyzeVariables context ⟨some template, some line⟩ =
      .ok (Template.analyzeFor template (context.record line)) := by
  rw [← Text.isBlankText_eq_all] at hline
  simp only [analyzeVariables, if_neg hline]

/-- The decision about a batch of one recipient is the one message for it. -/
theorem decision_of_one {settings : MergeSettings} {merger : Merger} (subjects : List Text)
    (hsize : 1 ≤ settings.maxBatchSize) (htemplate : ¬template.all Text.isBlank = true)
    (hline : ¬line.all Text.isBlank = true)
    (hfit : outputSize (Mailing.merge ⟨subjects, template⟩ merger [line]) ≤
      settings.maxOutputBytes) :
    BatchRequest.decision settings merger ⟨subjects, some template, [line], none⟩ =
      .ok [Mailing.message ⟨subjects, template⟩ (merger.context 0) 0 line] := by
  have hlines : BatchRequest.givenLines ⟨subjects, some template, [line], none⟩ = [line.trim] := by
    simp [BatchRequest.givenLines, Text.trimmed, hline]
  have hmerge : Mailing.merge ⟨subjects, template⟩ merger [line.trim] =
      [Mailing.message ⟨subjects, template⟩ (merger.context 0) 0 line] := by
    rw [Mailing.merge, Mailing.mergeFrom, Mailing.message_trim, Mailing.mergeFrom]
  have hcount : ¬settings.maxBatchSize < [line.trim].length := Nat.not_lt.mpr hsize
  have hlimit : ¬settings.maxOutputBytes <
      min (outputSize [Mailing.message ⟨subjects, template⟩ (merger.context 0) 0 line])
        (2 ^ 64 - 1) := by
    have : outputSize [Mailing.message ⟨subjects, template⟩ (merger.context 0) 0 line] ≤
        settings.maxOutputBytes := hfit
    omega
  unfold BatchRequest.decision
  simp only [hlines, hmerge]
  rw [if_neg htemplate, if_neg (List.cons_ne_nil _ _), if_neg hcount, if_neg hlimit]

end

/-! ## The answers one by one -/

section

variable {settings : Settings} {template line : Text} {r : Http.Request}

/-- What a client reads off the answer of the action that applies a template. -/
theorem response_of_applyMerge (htemplate : ¬template.all Text.isBlank = true)
    (hline : ¬line.all Text.isBlank = true)
    (h : Posts settings r .applyMerge ApplyRequest.read ⟨some template, some line⟩)
    (moment : Moment) (metrics : Metrics) :
    let response := (respond settings moment metrics r).response
    let record := Context.record ((merger settings.merge moment.clock).context 0) line
    response.IsSuccess ∧ (record.resolve template).IsShownAs response.value := by
  intro response record
  have hresponse : response =
      jsonResponse 200 (Answer.applied ⟨record, record.resolve template⟩).toJson := by
    simp only [response]
    rw [respond_of_reaches h.toReaches, perform, h.read_eq, process,
      applyMerge_of_not_blank _ htemplate hline]
    rfl
  rw [hresponse]
  exact ⟨⟨rfl, Answer.get?_success_applied _⟩, Resolution.isShownAs_toJson record _⟩

/-- What a client reads off the answer to a batch of one recipient. -/
theorem response_of_mergeBatch_one {subjects : List Text}
    (hsize : 1 ≤ settings.merge.maxBatchSize) (htemplate : ¬template.all Text.isBlank = true)
    (hline : ¬line.all Text.isBlank = true) (moment : Moment) (metrics : Metrics)
    (hfit : outputSize
        (Mailing.merge ⟨subjects, template⟩ (merger settings.merge moment.clock) [line]) ≤
      settings.merge.maxOutputBytes)
    (h : PostsBatch settings r ⟨subjects, some template, [line], none⟩) :
    let response := (respond settings moment metrics r).response
    let context := (merger settings.merge moment.clock).context 0
    response.IsSuccess ∧ response.value.get? "total" = some (.integer 1) ∧
      ∃ shown, response.value.get? "messages" = some (.list [shown]) ∧
        (Mailing.message ⟨subjects, template⟩ context 0 line).IsShownAs shown := by
  intro response context
  have hlength : BatchRequest.givenLines ⟨subjects, some template, [line], none⟩ = [line.trim] := by
    simp [BatchRequest.givenLines, Text.trimmed, hline]
  have hanswer := BatchRequest.isAnswer_outcome settings.merge (merger settings.merge moment.clock)
    ⟨subjects, some template, [line], none⟩
  rw [BatchRequest.IsAnswer, decision_of_one subjects hsize htemplate hline hfit,
    ← respond_of_postsBatch h moment metrics, hlength] at hanswer
  obtain ⟨hsuccess, htotal, shown, hshown, hmessages⟩ := hanswer
  obtain ⟨first, rest, hfirst, hrest, rfl⟩ := List.forall₂_cons_left_iff.mp hmessages
  obtain rfl : rest = [] := List.forall₂_nil_left_iff.mp hrest
  exact ⟨hsuccess, htotal, first, hshown, hfirst⟩

/-- What a client reads off the answer of the action that analyses a template. -/
theorem response_of_analyzeVariables (hline : ¬line.all Text.isBlank = true)
    (h : Posts settings r .analyzeVariables AnalyzeRequest.read ⟨some template, some line⟩)
    (moment : Moment) (metrics : Metrics) :
    let response := (respond settings moment metrics r).response
    let record := Context.record ((merger settings.merge moment.clock).context 0) line
    response.status = 200 ∧ (Template.analyzeFor template record).IsShownAs response.value := by
  intro response record
  have hresponse : response =
      jsonResponse 200 (Answer.analyzed (Template.analyzeFor template record)).toJson := by
    simp only [response]
    rw [respond_of_reaches h.toReaches, perform, h.read_eq, process,
      analyzeVariables_of_not_blank _ template hline]
    rfl
  rw [hresponse]
  exact ⟨rfl, Analysis.isShownAs_toJson _⟩

end

/-! ## Agreement -/

/-- **Agreement.** A template and a recipient line that are not blank are
posted to the three actions, to the batch with any subjects; the clock shows
the same when the actions read it, and the message keeps to the limits of the
settings. Then a client reads off the answers: the action that applies the
template gives a result and the names that the recipient lacks. The batch has
one message, with this result as its body; it reports, each once and in the
order of their bytes, these names and those that the recipient lacks for the
first subject. The analysis misses the same names, perhaps in another order. -/
theorem actions_agree (settings : Settings) (now : Calendar.Instant) {template line : Text}
    (subjects : List Text) {single batch analysis : Http.Request}
    (hsize : 1 ≤ settings.merge.maxBatchSize)
    (htemplate : ¬template.all Text.isBlank = true) (hline : ¬line.all Text.isBlank = true)
    (hfit : outputSize
        (Mailing.merge ⟨subjects, template⟩ (merger settings.merge now) [line]) ≤
      settings.merge.maxOutputBytes)
    (hsingle : Posts settings single .applyMerge ApplyRequest.read ⟨some template, some line⟩)
    (hbatch : PostsBatch settings batch ⟨subjects, some template, [line], none⟩)
    (hanalysis : Posts settings analysis .analyzeVariables AnalyzeRequest.read
      ⟨some template, some line⟩) :
    let record := Context.record ⟨now, settings.merge.unsubscribeBase⟩ line
    let subject := subjects.head?.getD Mailing.defaultSubject
    ∃ (result : Text) (unknown reported missing : List Text),
      record.resolve template = ⟨result, unknown⟩ ∧
      (reported.map Text.utf8).Pairwise (· < ·) ∧
      (∀ name, name ∈ reported ↔ name ∈ unknown ∨ name ∈ (record.resolve subject).unknown) ∧
      missing.Perm unknown ∧
      ∀ moment metrics, moment.clock.reading 0 = now →
        (let response := (respond settings moment metrics single).response
        response.IsSuccess ∧ response.value.get? "result" = some (.text result) ∧
          response.value.ShowsTexts "unknownVariables" unknown) ∧
        (let response := (respond settings moment metrics batch).response
        response.IsSuccess ∧ response.value.get? "total" = some (.integer 1) ∧
          ∃ message, response.value.get? "messages" = some (.list [message]) ∧
            message.get? "body" = some (.text result) ∧
            message.ShowsTexts "unknownVariables" reported) ∧
        (let response := (respond settings moment metrics analysis).response
        response.status = 200 ∧
          response.value.get? "missing" = some (.list (missing.map .text))) := by
  intro record subject
  let context : Context := ⟨now, settings.merge.unsubscribeBase⟩
  let mailing : Mailing := ⟨subjects, template⟩
  have hmessage : Mailing.IsMessageFor mailing context 0 line (mailing.message context 0 line) :=
    mailing.isMessageFor_message context 0 line
  have hsubject : mailing.subjectFor 0 = subject := mailing.subjectFor_zero
  refine ⟨(record.resolve template).message, (record.resolve template).unknown,
    (mailing.message context 0 line).unknown, Template.missingNames template record, rfl,
    hmessage.pairwise_unknown, ?_, Template.missingNames_perm template record, ?_⟩
  · intro name
    rw [hmessage.mem_unknown_iff_reported, hsubject, or_comm]
  rintro moment metrics rfl
  obtain ⟨happlied, hresolution⟩ := response_of_applyMerge htemplate hline hsingle moment metrics
  obtain ⟨hmerged, htotal, shown, hshown, hone⟩ :=
    response_of_mergeBatch_one hsize htemplate hline moment metrics hfit hbatch
  obtain ⟨hanalyzed, hmissing⟩ := response_of_analyzeVariables hline hanalysis moment metrics
  refine ⟨⟨happlied, hresolution.message_eq, hresolution.unknown_eq⟩,
    ⟨hmerged, htotal, shown, hshown, hone.body_eq, hone.unknown_eq⟩, hanalyzed, ?_⟩
  rw [hmissing.missing_eq, Template.missing_analyzeFor]
  rfl

/-- A recipient without a city, and a subject that needs a town. -/
theorem actions_agree_without_city :
    let now : Calendar.Instant := ⟨2024, 1, 1, 0, 0, 0, 0⟩
    let moment : Moment := ⟨now, 0⟩
    let form := "\x7b\"template\":\"Hi \x7bcity\x7d\",\"recipientLine\":\" a@b.c \"\x7d".toList
    let batch :=
      jsonPost .mergeBatch "[[\"\x7btown\x7d\"],\"Hi \x7bcity\x7d\",[\" a@b.c \"]]".toList
    (let response := (respond {} moment .zero (jsonPost .applyMerge form)).response
    response.IsSuccess ∧ response.value.get? "result" = some (.text "Hi ".toList)) ∧
    (∃ message reported,
      (respond {} moment .zero batch).response.value.get? "messages" = some (.list [message]) ∧
      message.get? "body" = some (.text "Hi ".toList) ∧
      message.ShowsTexts "unknownVariables" reported ∧
      ∀ name, name ∈ reported ↔ name ∈ ["city".toList] ∨ name ∈ ["town".toList]) ∧
    (respond {} moment .zero (jsonPost .analyzeVariables form)).response.value.get? "missing" =
      some (.list [.text "city".toList]) := by
  intro now moment form batch
  have hsingle : Posts {} (jsonPost .applyMerge form) .applyMerge ApplyRequest.read
      ⟨some "Hi \x7bcity\x7d".toList, some " a@b.c ".toList⟩ :=
    ⟨reaches_jsonPost .applyMerge (by decide), by decide +kernel⟩
  have hbatch : PostsBatch {} batch
      ⟨["\x7btown\x7d".toList], some "Hi \x7bcity\x7d".toList, [" a@b.c ".toList], none⟩ :=
    postsBatch_batchPost (by decide) (by decide +kernel)
  have hanalysis : Posts {} (jsonPost .analyzeVariables form) .analyzeVariables AnalyzeRequest.read
      ⟨some "Hi \x7bcity\x7d".toList, some " a@b.c ".toList⟩ :=
    ⟨reaches_jsonPost .analyzeVariables (by decide), by decide +kernel⟩
  have hrecord : (Context.record ⟨now, Context.defaultUnsubscribeBase⟩
      " a@b.c ".toList).resolve "Hi \x7bcity\x7d".toList = ⟨"Hi ".toList, ["city".toList]⟩ := by
    decide +kernel
  have hsubject : (Context.record ⟨now, Context.defaultUnsubscribeBase⟩
      " a@b.c ".toList).resolve "\x7btown\x7d".toList = ⟨[], ["town".toList]⟩ := by
    decide +kernel
  obtain ⟨result, unknown, reported, missing, hresolve, -, hreported, hmissing, hresponses⟩ :=
    actions_agree {} now ["\x7btown\x7d".toList] (by decide) (by decide) (by decide)
      (by decide +kernel) hsingle hbatch hanalysis
  obtain ⟨rfl, rfl⟩ : "Hi ".toList = result ∧ ["city".toList] = unknown :=
    Resolution.mk.inj (hrecord.symm.trans hresolve)
  obtain rfl : missing = ["city".toList] := List.perm_singleton.mp hmissing
  obtain ⟨⟨hone, hresult, -⟩, ⟨-, -, message, hmessage, hbody, hshows⟩, -, hanalyzed⟩ :=
    hresponses moment .zero rfl
  refine ⟨⟨hone, hresult⟩, ⟨message, reported, hmessage, hbody, hshows, fun name => ?_⟩, hanalyzed⟩
  have hname := hreported name
  simp only [List.head?_cons, Option.getD_some] at hname
  rwa [hsubject] at hname

end Service

end FormLetter
