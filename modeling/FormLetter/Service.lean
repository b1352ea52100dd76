import FormLetter.Http.Endpoint
import FormLetter.Http.MediaType
import FormLetter.Http.Message
import FormLetter.Metrics.Exposition
import FormLetter.Service.Answers
import FormLetter.Service.Encoding

/-!
# The service

The service answers requests one after the other. An answer depends on the settings, the moment,
the request and, where the metrics are fetched, on the requests served before.

A request is checked in this order: its method may be the one that asks for options; the length
that it announces; its path; its method; the media type of its body; the length of its body; its
JSON; and what it asks for.
-/

namespace FormLetter.Service

open Http

/-- When a request is answered. -/
structure Moment where
  /-- The clock from then on. -/
  clock : Calendar.Clock
  /-- How long the service has been running. -/
  uptimeSeconds : Nat

/-- A response and what counts when it is given. -/
structure Outcome where
  response : Response
  events : List Event := []

/-! ## Headers -/

/-- The header that allows pages of every origin to see the response. -/
def anyOrigin : Text × Text := ("access-control-allow-origin".toList, "*".toList)

/-- The headers that allow requests with every method and header. -/
def anyRequest : List (Text × Text) :=
  [("access-control-allow-methods".toList, "*".toList),
    ("access-control-allow-headers".toList, "*".toList)]

/-- The header with the media type of the body. -/
def contentType (type : Text) : Text × Text := ("content-type".toList, type)

/-- The header with the methods that an endpoint takes. -/
def allowed (endpoint : Endpoint) : Text × Text := ("allow".toList, endpoint.allow)

/-- The media type of JSON. -/
def jsonType : Text := "application/json".toList

/-- The media type of plain text. -/
def plainType : Text := "text/plain; charset=utf-8".toList

/-- The media type of the exposition of metrics. -/
def metricsType : Text := "text/plain; version=0.0.4; charset=utf-8".toList

/-! ## Responses -/

/-- A response with a JSON value. -/
def jsonResponse (status : Nat) (value : Json) : Response :=
  ⟨status, [anyOrigin, contentType jsonType], .json value⟩

/-- A response that turns a request down before it is looked into. -/
def refusal (status : Nat) : Response := ⟨status, [anyOrigin, contentType plainType], .empty⟩

/-- A response that reports a fault: `into_response` of `AppError`. -/
def failureResponse (production : Bool) (failure : Failure) : Response :=
  jsonResponse failure.status (failure.toJson production)

/-- The response to a request for options. -/
def optionsResponse (endpoint : Option Endpoint) : Response :=
  ⟨200, anyOrigin :: anyRequest ++ (endpoint.map allowed).toList, .empty⟩

/-! ## Refusals -/

/-- Why something posted is not served. -/
inductive Refusal
  /-- The body is not said to be JSON. -/
  | notJson
  /-- The body is longer than the settings admit. -/
  | tooLong
  /-- The body is not the form that the action takes. -/
  | badForm (fault : FormFault)
  /-- What the form asks for cannot be done. -/
  | rejected (reason : Rejection)
  deriving DecidableEq, Repr

/-- The response to something that is not served. -/
def Refusal.response : Refusal → Response
  | notJson => refusal 415
  | tooLong => refusal 413
  | badForm .malformed => refusal 400
  | badForm .mismatched => refusal 422
  | rejected reason => failureResponse false (.validation reason.message)

/-! ## Endpoints -/

/-- The version of the service. -/
def version : Text := "1.0.0".toList

open Json (field)

/-- The response to a request that fetches a page. -/
def fetch (moment : Moment) (metrics : Metrics) : Page → Response
  | .health =>
    jsonResponse 200
      (.object
        [field "status" (.text "healthy".toList), field "version" (.text version),
          field "uptimeSeconds" (.natural moment.uptimeSeconds)])
  | .metrics => ⟨200, [anyOrigin, contentType metricsType], .text metrics.exposition⟩
  | .catalogue => jsonResponse 200 (.list (Catalogue.entries.map CatalogueEntry.toJson))
  | .documentation =>
    jsonResponse 200 (Json.success [field "documentation" (.text Catalogue.page)])

/-- Reads a form and does what it asks for. -/
def process {α β : Type} (form : Except FormFault α) (answer : α → Except Rejection β)
    (wrap : β → Answer) : Except Refusal Answer :=
  match form with
  | .error fault => .error (.badForm fault)
  | .ok request =>
    match answer request with
    | .error reason => .error (.rejected reason)
    | .ok b => .ok (wrap b)

/-- What the service merges with: the `MailMerge` of its `AppState`. -/
def merger (settings : MergeSettings) (clock : Calendar.Clock) : Merger :=
  ⟨clock, settings.unsubscribeBase⟩

/-- Does what the bytes posted to an action ask for. An action for one recipient reads the clock
once. -/
def perform (settings : MergeSettings) (clock : Calendar.Clock) (bytes : List UInt8) :
    Action → Except Refusal Answer :=
  let merger := merger settings clock
  fun
  | .parseRecipient =>
    process (ParseRequest.read bytes) (parseRecipient (merger.context 0)) .parsed
  | .applyMerge => process (ApplyRequest.read bytes) (applyMerge (merger.context 0)) .applied
  | .mergeBatch => process (BatchRequest.read bytes) (mergeBatch settings merger) .merged
  | .analyzeVariables =>
    process (AnalyzeRequest.read bytes) (analyzeVariables (merger.context 0)) .analyzed

/-- Whether the body of a request is said to be JSON. -/
def bringsJson (request : Request) : Bool :=
  match request.header? "content-type".toList with
  | some type => isJsonType type
  | none => false

/-- The greatest number of bytes that are read of a request's body. -/
def bodyLimit (settings : Settings) (request : Request) : Nat :=
  match request.contentLength? with
  | some announced => min settings.server.maxBodyBytes announced
  | none => settings.server.maxBodyBytes

/-- The answer to a request that is posted to an action. -/
def answer (settings : Settings) (clock : Calendar.Clock) (request : Request) (action : Action) :
    Except Refusal Answer :=
  if !bringsJson request then .error .notJson
  else if bodyLimit settings request < request.body.length then .error .tooLong
  else perform settings.merge clock request.body action

/-- What follows from a request with a method that the endpoint takes. -/
def serve (settings : Settings) (moment : Moment) (metrics : Metrics) (request : Request) :
    Endpoint → Outcome
  | .page page =>
    let response := fetch moment metrics page
    if request.method = "HEAD".toList then ⟨{ response with body := .empty }, []⟩
    else ⟨response, []⟩
  | .action action =>
    match answer settings moment.clock request action with
    | .ok a => ⟨jsonResponse 200 a.toJson, a.events⟩
    | .error r => ⟨r.response, []⟩

/-- Whether a request announces a longer body than the settings admit. -/
def announcesTooMuch (settings : Settings) (request : Request) : Bool :=
  match request.contentLength? with
  | some announced => settings.server.maxBodyBytes < announced
  | none => false

/-- What follows from a request to the service that `create_app` makes. -/
def respond (settings : Settings) (moment : Moment) (metrics : Metrics) (request : Request) :
    Outcome :=
  let endpoint := Endpoint.ofPath? request.path
  if request.method = "OPTIONS".toList then ⟨optionsResponse endpoint, []⟩
  else
    let tooLong := announcesTooMuch settings request
    match endpoint with
    | none => if tooLong then ⟨refusal 413, []⟩ else ⟨⟨404, [anyOrigin], .empty⟩, []⟩
    | some endpoint =>
      if endpoint.methods.contains request.method then
        if tooLong then ⟨refusal 413, []⟩ else serve settings moment metrics request endpoint
      else
        let response := if tooLong then refusal 413 else ⟨405, [anyOrigin], .empty⟩
        ⟨{ response with headers := response.headers ++ [allowed endpoint] }, []⟩

/-- The responses to requests that come at certain moments, one after the other, and the metrics
in the end. -/
def run (settings : Settings) (metrics : Metrics) :
    List (Moment × Request) → List Response × Metrics
  | [] => ([], metrics)
  | (moment, request) :: requests =>
    let outcome := respond settings moment metrics request
    let others := run settings (metrics.recordAll outcome.events) requests
    (outcome.response :: others.1, others.2)

end FormLetter.Service
