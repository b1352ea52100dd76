import FormLetter.Text.Basic

/-!
# Endpoints

What the service can be asked, and where. A page is fetched, an action is posted to, and each of
them has one path.

Results:

* `ofPath?_path`: an endpoint is found under its path.
-/

namespace FormLetter.Http

/-- Something to be fetched. -/
inductive Page
  | health
  | metrics
  | catalogue
  | documentation
  deriving DecidableEq, Repr

/-- Something to be done with what is posted. -/
inductive Action
  | parseRecipient
  | applyMerge
  | mergeBatch
  | analyzeVariables
  deriving DecidableEq, Repr

/-- Something that the service can be asked. -/
inductive Endpoint
  | page (p : Page)
  | action (a : Action)
  deriving DecidableEq, Repr

/-- The path of a page. -/
def Page.path : Page → Text
  | health => "/health".toList
  | metrics => "/metrics".toList
  | catalogue => "/api/email/personalization-variables".toList
  | documentation => "/api/email/personalization-documentation".toList

/-- The path of an action. -/
def Action.path : Action → Text
  | parseRecipient => "/api/email/parse-recipient".toList
  | applyMerge => "/api/email/apply-enhanced-merge".toList
  | mergeBatch => "/api/email/merge-batch".toList
  | analyzeVariables => "/api/template/analyze-variables".toList

namespace Endpoint

/-- All endpoints. -/
def all : List Endpoint :=
  [page .health, page .metrics, page .catalogue, page .documentation, action .parseRecipient,
    action .applyMerge, action .mergeBatch, action .analyzeVariables]

/-- The path of an endpoint. -/
def path : Endpoint → Text
  | page p => p.path
  | action a => a.path

/-- The endpoint with a path: the routes of `api_routes`. -/
def ofPath? (path : Text) : Option Endpoint := all.find? fun e => e.path = path

theorem ofPath?_path (e : Endpoint) : ofPath? e.path = some e := by
  cases e with
  | page p => cases p <;> decide
  | action a => cases a <;> decide

/-- The methods that the endpoint takes. -/
def methods : Endpoint → List Text
  | page _ => ["GET".toList, "HEAD".toList]
  | action _ => ["POST".toList]

/-- The methods that the endpoint takes, as answers list them. -/
def allow : Endpoint → Text
  | page _ => "GET,HEAD".toList
  | action _ => "POST".toList

end Endpoint

end FormLetter.Http
