import FormLetter.Proofs.BatchAnswer
import FormLetter.Proofs.CountedEvents
import FormLetter.Proofs.LineRecord

/-!
# What the metrics of the service tell

The metrics and the responses of the service tell the same story: every counter
can be worked out from the requests and the responses that have been exchanged.

Specification: `Exchange` is a request with its response. `isServed`,
`recipients`, `total` and `unknowns` read an exchange without looking into the
service, and `Balances` says what the metrics have to be.

Results:

* `weigh_respond`: what a request counts for can be read off the exchange.
* `value_run`: a run adds to every counter what its exchanges count for.
* `run_balances`: the metrics balance after every run.
-/

namespace FormLetter

/-! ## Specification -/

namespace Http.Response

/-- The members of the object that is the body. -/
def members (response : Response) : List (Text × Json) :=
  match response.body with
  | .json (.object members) => members
  | _ => []

end Http.Response

/-- The length of the list of unknown variables among some members. -/
def Json.unknownsIn (members : List (Text × Json)) : ℕ :=
  match member? members "unknownVariables".toList with
  | some (.list names) => names.length
  | _ => 0

/-- The length of the list of unknown variables of an object. -/
def Json.unknowns : Json → ℕ
  | .object members => unknownsIn members
  | _ => 0

namespace Service

open Http

/-- A request and the response to it. -/
structure Exchange where
  request : Http.Request
  response : Response

/-- The exchanges of a run. -/
def exchanges (settings : Settings) (metrics : Metrics) (requests : List (Moment × Http.Request)) :
    List Exchange :=
  (requests.map Prod.snd).zipWith Exchange.mk (run settings metrics requests).1

/-- The recipient lines that are posted to an action for records to be built. -/
def postedLines (body : List UInt8) : Action → List Text
  | .parseRecipient =>
    match ParseRequest.read body with
    | .ok request => request.line.toList
    | .error _ => []
  | .applyMerge =>
    match ApplyRequest.read body with
    | .ok request => request.line.toList
    | .error _ => []
  | .mergeBatch =>
    match BatchRequest.read body with
    | .ok batch => batch.givenLines
    | .error _ => []
  | .analyzeVariables => []

namespace Exchange

variable (x : Exchange)

/-- A request is posted to an action and answered with success. -/
def isServed (action : Action) : Bool :=
  x.request.method = "POST".toList && x.request.path = action.path && x.response.status = 200

/-- The number of messages that the response announces. -/
def total : ℕ :=
  match Json.member? x.response.members "total".toList with
  | some (.integer n) => n.toNat
  | _ => 0

/-- The lengths of all lists of unknown variables in the response: its own and
those of its messages. -/
def unknowns : ℕ :=
  Json.unknownsIn x.response.members +
    match Json.member? x.response.members "messages".toList with
    | some (.list messages) => (messages.map Json.unknowns).sum
    | _ => 0

/-- The recipients in the answer, as lines. -/
def recipients : List Text :=
  [Action.parseRecipient, .applyMerge, .mergeBatch].flatMap fun action =>
    if x.isServed action then postedLines x.request.body action else []

end Exchange

/-- The exchanges in which an action is served. -/
def served (action : Action) (xs : List Exchange) : List Exchange :=
  xs.filter (·.isServed action)

/-- The metrics tell what has been exchanged since all counters were zero. -/
structure Balances (metrics : Metrics) (xs : List Exchange) : Prop where
  recordsBuilt_eq : metrics.recordsBuilt = (served .parseRecipient xs).length +
    metrics.resolved "apply".toList + metrics.resolved "batch".toList
  resolved_apply_eq : metrics.resolved "apply".toList = (served .applyMerge xs).length
  resolved_batch_eq : metrics.resolved "batch".toList = metrics.batchSizes.sum
  batchSizes_sum_eq :
    metrics.batchSizes.sum = ((served .mergeBatch xs).map Exchange.total).sum
  batchSizes_count_eq : metrics.batchSizes.count = (served .mergeBatch xs).length
  malformedRecipients_le : metrics.malformedRecipients ≤ metrics.recordsBuilt
  /-- The address of a line stands before its first bar. -/
  malformedRecipients_eq : metrics.malformedRecipients =
    (xs.flatMap Exchange.recipients).countP fun line => '@' ∉ (line.trim.split '|').1
  unknownPlaceholders_eq : metrics.unknownPlaceholders = (xs.map Exchange.unknowns).sum

/-! ## What an exchange counts for -/

namespace Exchange

/-- A number that counts if the action is served. -/
def ifServed (x : Exchange) (action : Action) (n : ℕ) : ℕ := if x.isServed action then n else 0

/-- What an exchange counts for. -/
def gain (x : Exchange) : Counter → ℕ
  | .recordsBuilt =>
    x.ifServed .parseRecipient 1 + x.ifServed .applyMerge 1 + x.ifServed .mergeBatch x.total
  | .malformedRecipients => x.recipients.countP fun line => '@' ∉ (line.trim.split '|').1
  | .resolved endpoint =>
    (if endpoint = "apply".toList then x.ifServed .applyMerge 1 else 0) +
      if endpoint = "batch".toList then x.ifServed .mergeBatch x.total else 0
  | .unknownPlaceholders => x.unknowns
  | .batchSum => x.ifServed .mergeBatch x.total
  | .batchCount => x.ifServed .mergeBatch 1

variable {x : Exchange}

theorem isServed_iff {action : Action} : x.isServed action = true ↔
    x.request.method = "POST".toList ∧ x.request.path = action.path ∧
      x.response.status = 200 := by
  simp [isServed, and_assoc]

/-- What is no success of something posted and reports no unknown variables
counts for nothing. -/
theorem gain_eq_zero (h : x.request.method = "POST".toList → x.response.status ≠ 200)
    (hunknowns : x.unknowns = 0) (c : Counter) : x.gain c = 0 := by
  have hserved (action : Action) : x.isServed action = false := by
    rw [← Bool.not_eq_true, isServed_iff]
    rintro ⟨hmethod, -, hstatus⟩
    exact h hmethod hstatus
  have hrecipients : x.recipients = [] := by simp [recipients, hserved]
  cases c with
  | resolved endpoint => simp only [gain, ifServed, hserved, Bool.false_eq_true, if_false, ite_self]
  | malformedRecipients => simp [gain, hrecipients]
  | unknownPlaceholders => exact hunknowns
  | _ => simp [gain, ifServed, hserved]

end Exchange

variable {settings : Settings} {r : Http.Request} {response : Response}

/-- An exchange aside from all actions counts for nothing. -/
theorem gain_of_isAside {moment : Moment} {metrics : Metrics}
    (h : IsAside moment metrics r response) (c : Counter) :
    (Exchange.mk r response).gain c = 0 := by
  cases h with
  | empty status headers h => exact Exchange.gain_eq_zero h rfl c
  | page page h =>
    have hunknowns : (Exchange.mk r (fetch moment metrics page)).unknowns = 0 := by
      cases page <;> rfl
    exact Exchange.gain_eq_zero (fun hpost => absurd hpost h) hunknowns c

theorem Refusal.status_response_ne (refusal : Refusal) : refusal.response.status ≠ 200 := by
  cases refusal with
  | notJson => decide
  | tooLong => decide
  | badForm fault => cases fault <;> decide
  | rejected reason =>
    show (400 : ℕ) ≠ 200
    decide

/-- A refusal counts for nothing. -/
theorem gain_refusal (r : Http.Request) (refusal : Refusal) (c : Counter) :
    (Exchange.mk r refusal.response).gain c = 0 := by
  have hunknowns : (Exchange.mk r refusal.response).unknowns = 0 := by
    cases refusal with
    | badForm fault => cases fault <;> rfl
    | _ => rfl
  exact Exchange.gain_eq_zero (fun _ => refusal.status_response_ne) hunknowns c

/-! ## Answers -/

theorem path_injective : Function.Injective Action.path := by
  intro a b h
  have ha : Endpoint.ofPath? a.path = some (.action a) := Endpoint.ofPath?_path (.action a)
  have hb : Endpoint.ofPath? b.path = some (.action b) := Endpoint.ofPath?_path (.action b)
  rw [h, hb] at ha
  cases ha
  rfl

/-- A success is one of the action that the request reaches. -/
theorem isServed_of_reaches {action : Action} (h : Reaches settings r action) (value : Json)
    (other : Action) :
    (Exchange.mk r (jsonResponse 200 value)).isServed other = decide (action = other) := by
  rw [Bool.eq_iff_iff, Exchange.isServed_iff, decide_eq_true_eq]
  constructor
  · rintro ⟨-, hpath, -⟩
    exact path_injective (h.path_eq.symm.trans hpath)
  · rintro rfl
    exact ⟨h.method_eq, h.path_eq, rfl⟩

theorem ifServed_of_reaches {action : Action} (h : Reaches settings r action) (value : Json)
    (other : Action) (n : ℕ) : (Exchange.mk r (jsonResponse 200 value)).ifServed other n =
      if action = other then n else 0 := by
  rw [Exchange.ifServed, isServed_of_reaches h]
  simp only [decide_eq_true_eq]

/-- The recipients of a success are those that were posted to the action. -/
theorem recipients_of_reaches {action : Action} (h : Reaches settings r action) (value : Json) :
    (Exchange.mk r (jsonResponse 200 value)).recipients = postedLines r.body action := by
  have hserved := isServed_of_reaches h value
  cases action <;> simp [Exchange.recipients, hserved, postedLines]

variable {context : Context} {c : Counter}

theorem parseRecipient_eq_ok {request : ParseRequest} {record : Record}
    (h : parseRecipient context request = .ok record) :
    ∃ line, request.line = some line ∧ record = context.record line := by
  unfold parseRecipient required at h
  cases hline : request.line with
  | none =>
    rw [hline] at h
    cases h
  | some line =>
    simp only [hline] at h
    split_ifs at h with hblank
    · cases h
    · cases h
      exact ⟨line, rfl, rfl⟩

/-- Showing the variables of a recipient counts for one record. -/
theorem gain_parsed (h : Reaches settings r .parseRecipient) {request : ParseRequest}
    {record : Record} (hread : ParseRequest.read r.body = .ok request)
    (hrecord : parseRecipient context request = .ok record) :
    (Exchange.mk r (jsonResponse 200 (Answer.parsed record).toJson)).gain c =
      c.weigh (Answer.parsed record).events := by
  obtain ⟨line, hline, rfl⟩ := parseRecipient_eq_ok hrecord
  have hserved := ifServed_of_reaches h (Answer.parsed (context.record line)).toJson
  have hrecipients := recipients_of_reaches h (Answer.parsed (context.record line)).toJson
  cases c with
  | unknownPlaceholders => rfl
  | malformedRecipients =>
    simp [Exchange.gain, hrecipients, postedLines, hread, hline, Counter.weigh, Answer.events,
      Event.weight, context.malformed_record]
  | resolved endpoint =>
    simp only [Exchange.gain, hserved, reduceCtorEq, if_false, ite_self]
    rfl
  | _ => simp [Exchange.gain, hserved, Counter.weigh, Answer.events, Event.weight]

theorem applyMerge_eq_ok {request : ApplyRequest} {a : Applied}
    (h : applyMerge context request = .ok a) :
    ∃ line, request.line = some line ∧ a.record = context.record line := by
  unfold applyMerge at h
  cases htemplate : request.template with
  | none =>
    rw [htemplate] at h
    cases h
  | some template =>
    cases hline : request.line with
    | none =>
      rw [htemplate, hline] at h
      cases h
    | some line =>
      simp only [htemplate, hline] at h
      split_ifs at h with hblank
      cases h
      exact ⟨line, rfl, rfl⟩

theorem unknowns_applied (a : Applied) :
    (Exchange.mk r (jsonResponse 200 (Answer.applied a).toJson)).unknowns =
      a.resolution.unknown.length := by
  obtain ⟨record, message, unknown⟩ := a
  cases unknown with
  | nil => rfl
  | cons name names =>
    show ((name :: names).map Json.text).length + 0 = (name :: names).length
    rw [List.length_map, Nat.add_zero]

/-- Applying a template counts for one record and one message. -/
theorem gain_applied (h : Reaches settings r .applyMerge) {request : ApplyRequest} {a : Applied}
    (hread : ApplyRequest.read r.body = .ok request)
    (hresult : applyMerge context request = .ok a) :
    (Exchange.mk r (jsonResponse 200 (Answer.applied a).toJson)).gain c =
      c.weigh (Answer.applied a).events := by
  obtain ⟨line, hline, hrecord⟩ := applyMerge_eq_ok hresult
  have hserved := ifServed_of_reaches h (Answer.applied a).toJson
  have hrecipients := recipients_of_reaches h (Answer.applied a).toJson
  cases c with
  | unknownPlaceholders =>
    simp [Exchange.gain, unknowns_applied, Counter.weigh, Answer.events, Event.weight]
  | malformedRecipients =>
    simp [Exchange.gain, hrecipients, postedLines, hread, hline, Counter.weigh, Answer.events,
      Event.weight, hrecord, context.malformed_record]
  | resolved endpoint =>
    simp only [Exchange.gain, hserved, reduceCtorEq, if_true, if_false, ite_self]
    exact (Nat.zero_add _).symm
  | _ => simp [Exchange.gain, hserved, Counter.weigh, Answer.events, Event.weight]

/-! ## Batches -/

theorem countP_malformed_mergeFrom (mailing : Mailing) (merger : Merger) (index : ℕ)
    (lines : List Text) :
    (mailing.mergeFrom merger index lines).countP Message.malformed =
      lines.countP fun line => '@' ∉ (line.trim.split '|').1 := by
  induction lines generalizing index with
  | nil => rfl
  | cons line lines ih =>
    have hline : (mailing.message (merger.context index) index line).malformed =
        decide ('@' ∉ (line.trim.split '|').1) := (merger.context index).malformed_record line
    rw [Mailing.mergeFrom, List.countP_cons, List.countP_cons, ih, hline]

theorem unknowns_message (m : Message) : m.toJson.unknowns = m.unknown.length := by
  obtain ⟨index, email, subject, body, malformed, unknown⟩ := m
  cases unknown with
  | nil => cases malformed <;> rfl
  | cons name names =>
    have hlength : ((name :: names).map Json.text).length = (name :: names).length :=
      List.length_map Json.text
    cases malformed <;> exact hlength

theorem unknowns_merged (messages : List Message) :
    (Exchange.mk r (jsonResponse 200 (Answer.merged messages).toJson)).unknowns =
      (messages.map fun m => m.unknown.length).sum := by
  show 0 + ((messages.map Message.toJson).map Json.unknowns).sum = _
  rw [Nat.zero_add, List.map_map]
  exact congrArg (fun f => (messages.map f).sum) (funext unknowns_message)

/-- What is counted for messages of a batch. -/
theorem weigh_messages (messages : List Message) (c : Counter) :
    c.weigh (messages.flatMap messageEvents) =
      match c with
      | .recordsBuilt => messages.length
      | .malformedRecipients => messages.countP Message.malformed
      | .resolved endpoint => if endpoint = "batch".toList then messages.length else 0
      | .unknownPlaceholders => (messages.map fun m => m.unknown.length).sum
      | .batchSum => 0
      | .batchCount => 0 := by
  induction messages with
  | nil =>
    cases c with
    | resolved endpoint => exact (ite_self 0).symm
    | _ => rfl
  | cons m messages ih =>
    -- A message counts for its record and for itself.
    unfold Counter.weigh at ih ⊢
    rw [List.flatMap_cons, List.map_append, List.sum_append, ih]
    cases c with
    | resolved endpoint =>
      simp only [messageEvents, Event.weight, List.map_cons, List.map_nil, List.sum_cons,
        List.sum_nil, List.length_cons]
      split_ifs <;> omega
    | malformedRecipients =>
      simp [messageEvents, Event.weight, List.countP_cons, Nat.add_comm]
    | _ => simp [messageEvents, Event.weight, Nat.add_comm]

/-- Merging a batch counts for as many records and messages. -/
theorem gain_merged (h : Reaches settings r .mergeBatch) {batch : BatchRequest}
    {limits : MergeSettings} {merger : Merger} {messages : List Message}
    (hread : BatchRequest.read r.body = .ok batch)
    (hresult : mergeBatch limits merger batch = .ok messages) :
    (Exchange.mk r (jsonResponse 200 (Answer.merged messages).toJson)).gain c =
      c.weigh (Answer.merged messages).events := by
  have hserved := ifServed_of_reaches h (Answer.merged messages).toJson
  have hrecipients := recipients_of_reaches h (Answer.merged messages).toJson
  have htotal : (Exchange.mk r (jsonResponse 200 (Answer.merged messages).toJson)).total =
      messages.length := rfl
  have hweigh : c.weigh (Answer.merged messages).events =
      (Event.batchMerged messages.length).weight c + c.weigh (messages.flatMap messageEvents) := rfl
  rw [hweigh, weigh_messages]
  cases c with
  | malformedRecipients =>
    obtain ⟨mailing, rfl⟩ := BatchRequest.eq_merge_of_mergeBatch hresult
    simp only [Exchange.gain, hrecipients, postedLines, hread, Event.weight, Nat.zero_add]
    exact (countP_malformed_mergeFrom mailing merger 0 batch.givenLines).symm
  | unknownPlaceholders => simp [Exchange.gain, unknowns_merged, Event.weight]
  | resolved endpoint =>
    simp only [Exchange.gain, hserved, htotal, reduceCtorEq, if_true, if_false, ite_self,
      Event.weight]
  | _ => simp [Exchange.gain, hserved, htotal, Event.weight]

/-- An analysis counts for nothing. -/
theorem gain_analyzed (h : Reaches settings r .analyzeVariables) (analysis : Analysis) :
    (Exchange.mk r (jsonResponse 200 (Answer.analyzed analysis).toJson)).gain c = 0 := by
  have hserved := ifServed_of_reaches h (Answer.analyzed analysis).toJson
  have hrecipients := recipients_of_reaches h (Answer.analyzed analysis).toJson
  have hunknowns : (Exchange.mk r (jsonResponse 200 (Answer.analyzed analysis).toJson)).unknowns =
      0 := by
    obtain ⟨usages, total, inconsistent, missing⟩ := analysis
    cases missing <;> rfl
  cases c with
  | unknownPlaceholders => exact hunknowns
  | malformedRecipients => simp [Exchange.gain, hrecipients, postedLines]
  | resolved endpoint => simp only [Exchange.gain, hserved, reduceCtorEq, if_false, ite_self]
  | _ => simp [Exchange.gain, hserved]

/-! ## Runs -/

/-- What a request counts for can be read off the exchange. -/
theorem weigh_respond (settings : Settings) (moment : Moment) (metrics : Metrics)
    (r : Http.Request) (c : Counter) :
    c.weigh (respond settings moment metrics r).events =
      (Exchange.mk r (respond settings moment metrics r).response).gain c := by
  rcases respond_cases settings moment metrics r with ⟨action, h, he⟩ | ⟨response, h, he⟩
  · rw [he]
    cases hperform : perform settings.merge moment.clock r.body action with
    | error refusal => exact (gain_refusal r refusal c).symm
    | ok a =>
      cases action with
      | parseRecipient =>
        obtain ⟨request, record, hread, hresult, rfl⟩ := process_eq_ok_iff.mp hperform
        exact (gain_parsed h hread hresult).symm
      | applyMerge =>
        obtain ⟨request, result, hread, hresult, rfl⟩ := process_eq_ok_iff.mp hperform
        exact (gain_applied h hread hresult).symm
      | mergeBatch =>
        obtain ⟨batch, messages, hread, hresult, rfl⟩ := process_eq_ok_iff.mp hperform
        exact (gain_merged h hread hresult).symm
      | analyzeVariables =>
        obtain ⟨request, analysis, -, -, rfl⟩ := process_eq_ok_iff.mp hperform
        exact (gain_analyzed h analysis).symm
  · rw [he]
    exact (gain_of_isAside h c).symm

/-- The first request is exchanged for its response, and then the others. -/
theorem exchanges_cons (settings : Settings) (metrics : Metrics) (moment : Moment)
    (r : Http.Request) (requests : List (Moment × Http.Request)) :
    exchanges settings metrics ((moment, r) :: requests) =
      ⟨r, (respond settings moment metrics r).response⟩ ::
        exchanges settings (metrics.recordAll (respond settings moment metrics r).events)
          requests :=
  rfl

theorem isSound_run {metrics : Metrics} (h : metrics.IsSound)
    (requests : List (Moment × Http.Request)) : (run settings metrics requests).2.IsSound := by
  induction requests generalizing metrics with
  | nil => exact h
  | cons entry requests ih => exact ih (h.recordAll _)

/-- A run adds to every counter what its exchanges count for. -/
theorem value_run {metrics : Metrics} (h : metrics.IsSound)
    (requests : List (Moment × Http.Request)) (c : Counter) :
    (run settings metrics requests).2.value c =
      metrics.value c + ((exchanges settings metrics requests).map (·.gain c)).sum := by
  induction requests generalizing metrics with
  | nil => rfl
  | cons entry requests ih =>
    obtain ⟨moment, r⟩ := entry
    -- The rest of the run starts from the metrics after the first request.
    have hsound := h.recordAll (respond settings moment metrics r).events
    rw [exchanges_cons, List.map_cons, List.sum_cons, ← weigh_respond, ← Nat.add_assoc,
      ← Metrics.value_recordAll h, ← ih hsound]
    rfl

theorem sum_map_ifServed (action : Action) (f : Exchange → ℕ) (xs : List Exchange) :
    (xs.map fun x => x.ifServed action (f x)).sum = ((served action xs).map f).sum := by
  unfold Exchange.ifServed served
  rw [List.sum_map_ite]
  simp

/-- The values of the counters make the metrics balance. -/
theorem balances_of_value {metrics : Metrics} {xs : List Exchange} (h : metrics.IsSound)
    (hvalue : ∀ c : Counter, metrics.value c = (xs.map (·.gain c)).sum) : Balances metrics xs := by
  have hserved (action : Action) :
      (xs.map fun x => x.ifServed action 1).sum = (served action xs).length := by
    rw [sum_map_ifServed]
    simp
  have htotal := sum_map_ifServed .mergeBatch Exchange.total xs
  have hlabels : "apply".toList ≠ "batch".toList := by decide
  have happly : metrics.resolved "apply".toList = (served .applyMerge xs).length := by
    have h := hvalue (.resolved "apply".toList)
    simp only [Exchange.gain, if_true, if_neg hlabels, Nat.add_zero, hserved] at h
    exact h
  have hbatch : metrics.resolved "batch".toList =
      ((served .mergeBatch xs).map Exchange.total).sum := by
    have h := hvalue (.resolved "batch".toList)
    simp only [Exchange.gain, if_true, if_neg hlabels.symm, Nat.zero_add, htotal] at h
    exact h
  have hsum : metrics.batchSizes.sum = ((served .mergeBatch xs).map Exchange.total).sum := by
    rw [← htotal]
    exact hvalue .batchSum
  refine
    { recordsBuilt_eq := ?_
      resolved_apply_eq := happly
      resolved_batch_eq := hbatch.trans hsum.symm
      batchSizes_sum_eq := hsum
      batchSizes_count_eq := ?_
      malformedRecipients_le := h.malformed_le
      malformedRecipients_eq := ?_
      unknownPlaceholders_eq := hvalue .unknownPlaceholders }
  · rw [happly, hbatch, ← hserved, ← hserved, ← htotal, ← List.sum_map_add, ← List.sum_map_add]
    exact hvalue .recordsBuilt
  · rw [← hserved]
    exact hvalue .batchCount
  · rw [List.countP_flatMap]
    exact hvalue .malformedRecipients

/-- Only successes of the three actions that build records count. -/
theorem events_eq_nil {settings : Settings} {moment : Moment} {metrics : Metrics}
    {r : Http.Request}
    (h : (respond settings moment metrics r).response.status ≠ 200 ∨ r.method ≠ "POST".toList ∨
      r.path ∉ [Action.parseRecipient.path, Action.applyMerge.path, Action.mergeBatch.path]) :
    (respond settings moment metrics r).events = [] := by
  rcases respond_cases settings moment metrics r with ⟨action, hreaches, he⟩ | ⟨response, -, he⟩
  · rw [he] at h ⊢
    cases hperform : perform settings.merge moment.clock r.body action with
    | error refusal => rfl
    | ok a =>
      rw [hperform] at h
      rcases h with hstatus | hmethod | hpath
      · exact absurd rfl hstatus
      · exact absurd hreaches.method_eq hmethod
      · rw [hreaches.path_eq] at hpath
        cases action with
        | analyzeVariables =>
          obtain ⟨request, analysis, -, -, rfl⟩ := process_eq_ok_iff.mp hperform
          rfl
        | _ => simp at hpath
  · rw [he]

/-- **The metrics balance.** Whatever is requested of a service whose counters
are at zero, in whatever order, and whichever families have been registered,
afterwards the counters can be worked out from what has been exchanged: from
the successes of the three actions that build records, from the lines posted to
them, and from the lists of unknown variables in all responses. Whatever the
counters are, every other request leaves them as they are. -/
theorem run_balances (settings : Settings) (used : List Family)
    (requests : List (Moment × Http.Request)) :
    Balances (run settings (.zero used) requests).2
      (exchanges settings (.zero used) requests) ∧
    ∀ moment metrics r,
      let outcome := respond settings moment metrics r
      outcome.response.status ≠ 200 ∨ r.method ≠ "POST".toList ∨
          r.path ∉ [Action.parseRecipient.path, Action.applyMerge.path, Action.mergeBatch.path] →
        metrics.recordAll outcome.events = metrics := by
  constructor
  · have hsound := Metrics.isSound_zero used
    refine balances_of_value (isSound_run hsound requests) fun c => ?_
    have hzero : (Metrics.zero used).value c = 0 := by cases c <;> rfl
    rw [value_run hsound, hzero, Nat.zero_add]
  · intro moment metrics r outcome h
    have hevents : outcome.events = [] := events_eq_nil h
    rw [hevents]
    rfl

/-- A recipient without an at sign, a batch of two of whom one lacks a city,
a batch without a template, and a page. -/
theorem run_balances_after_four :
    let now : Calendar.Instant := ⟨2024, 1, 1, 0, 0, 0, 0⟩
    let moment : Moment := ⟨now, 0⟩
    let refused := jsonPost .mergeBatch "[[],null,[\"a@b.c\"]]".toList
    let requests :=
      [(moment, jsonPost .parseRecipient "[\"a\"]".toList),
        (moment, jsonPost .mergeBatch "[[],\"\x7bcity\x7d\",[\"a|city=x\",\"a@b.c\"]]".toList),
        (moment, refused), (moment, ⟨"GET".toList, Page.metrics.path, [], []⟩)]
    let metrics := (run {} .zero requests).2
    metrics.recordsBuilt = 1 + 0 + 2 ∧ metrics.malformedRecipients = 2 ∧
      metrics.unknownPlaceholders = 1 ∧
      metrics.recordAll (respond {} moment metrics refused).events = metrics := by
  intro now moment refused requests metrics
  obtain ⟨hbalances, hother⟩ := run_balances {} Family.all requests
  -- What the exchanges show, without the metrics.
  obtain ⟨hparsed, happlied, htotal, hlines, hunknowns, hstatus⟩ :
      (served .parseRecipient (exchanges {} .zero requests)).length = 1 ∧
      (served .applyMerge (exchanges {} .zero requests)).length = 0 ∧
      ((served .mergeBatch (exchanges {} .zero requests)).map Exchange.total).sum = 2 ∧
      ((exchanges {} .zero requests).flatMap Exchange.recipients).countP
        (fun line => '@' ∉ (line.trim.split '|').1) = 2 ∧
      ((exchanges {} .zero requests).map Exchange.unknowns).sum = 1 ∧
      (respond {} moment metrics refused).response.status ≠ 200 := by
    decide +kernel
  refine ⟨?_, ?_, ?_, hother moment metrics refused (Or.inl hstatus)⟩
  · have h := hbalances.recordsBuilt_eq
    rwa [hbalances.resolved_apply_eq, hbalances.resolved_batch_eq, hbalances.batchSizes_sum_eq,
      hparsed, happlied, htotal] at h
  · exact hbalances.malformedRecipients_eq.trans hlines
  · exact hbalances.unknownPlaceholders_eq.trans hunknowns

end Service

end FormLetter
