import FormLetter.Service
import Mathlib.Data.Nat.Notation
import Mathlib.Tactic.Common

/-!
# Requests that are posted

A request over HTTP either gets through to an action, which then reads what
was posted, or it is answered without looking at its body.

Specification: `Reaches` says of a request that it gets through to an action,
`Posts` also what it posts there, `outcomeOf` what follows from the result of
an action, and `IsAside` of a response that it is one to a request that reaches
no action.

Results:

* `respond_of_reaches`: what follows from a request that reaches an action.
* `reaches_jsonPost`: JSON can be posted to every action.
* `respond_cases`: what can follow from a request.
-/

namespace FormLetter.Service

open Http

/-! ## Specification -/

/-- The request is posted to an action, with a body that is JSON by its media
type and not too long. -/
structure Reaches (settings : Settings) (r : Http.Request) (action : Action) : Prop where
  method_eq : r.method = "POST".toList
  path_eq : r.path = action.path
  not_announcesTooMuch : announcesTooMuch settings r = false
  bringsJson : bringsJson r = true
  length_le : r.body.length ≤ bodyLimit settings r

/-- The request reaches an action, and its body is read as a form. -/
structure Posts {α : Type} (settings : Settings) (r : Http.Request) (action : Action)
    (read : List UInt8 → Except FormFault α) (form : α) : Prop extends
    Reaches settings r action where
  read_eq : read r.body = .ok form

/-- What follows when an action has come to a result. -/
def outcomeOf : Except Refusal Answer → Outcome
  | .ok a => ⟨jsonResponse 200 a.toJson, a.events⟩
  | .error refusal => ⟨refusal.response, []⟩

/-- A response to a request that reaches no action. -/
inductive IsAside (moment : Moment) (metrics : Metrics) (r : Http.Request) : Response → Prop
  /-- Without a body, and no success if something was posted. -/
  | empty (status : ℕ) (headers : List (Text × Text))
      (h : r.method = "POST".toList → status ≠ 200) :
      IsAside moment metrics r ⟨status, headers, .empty⟩
  /-- A page, which is fetched and not posted to. -/
  | page (page : Page) (h : r.method ≠ "POST".toList) :
      IsAside moment metrics r (fetch moment metrics page)

/-! ## Requests that reach an action -/

variable {settings : Settings} {r : Http.Request} {action : Action}

theorem serve_action (settings : Settings) (moment : Moment) (metrics : Metrics) (r : Http.Request)
    (action : Action) : serve settings moment metrics r (.action action) =
      outcomeOf (answer settings moment.clock r action) := by
  rw [serve]
  cases answer settings moment.clock r action <;> rfl

theorem respond_of_reaches (h : Reaches settings r action) (moment : Moment) (metrics : Metrics) :
    respond settings moment metrics r =
      outcomeOf (perform settings.merge moment.clock r.body action) := by
  have hendpoint : Endpoint.ofPath? r.path = some (.action action) := by
    rw [h.path_eq]
    exact Endpoint.ofPath?_path (.action action)
  have hserve : respond settings moment metrics r =
      serve settings moment metrics r (.action action) := by
    rw [respond, hendpoint, h.method_eq, h.not_announcesTooMuch]
    rfl
  rw [hserve, serve_action, answer, h.bringsJson, Bool.not_true, if_neg Bool.false_ne_true,
    if_neg (Nat.not_lt.mpr h.length_le)]

theorem process_eq_ok_iff {α β : Type} {form : Except FormFault α}
    {answer : α → Except Rejection β} {wrap : β → Answer} {a : Answer} :
    process form answer wrap = .ok a ↔
      ∃ request result, form = .ok request ∧ answer request = .ok result ∧ a = wrap result := by
  cases form with
  | error fault => simp [process]
  | ok request =>
    cases hanswer : answer request with
    | error reason => simp [process, hanswer]
    | ok result => simp [process, hanswer, eq_comm]

/-! ## Posting JSON -/

/-- A request that posts JSON to an action. -/
def jsonPost (action : Action) (json : Text) : Http.Request :=
  ⟨"POST".toList, action.path, [contentType jsonType], json.utf8⟩

/-- JSON that is not too long can be posted to every action. -/
theorem reaches_jsonPost (action : Action) {json : Text}
    (hsize : json.size ≤ settings.server.maxBodyBytes) :
    Reaches settings (jsonPost action json) action := by
  have hannounced : (jsonPost action json).contentLength? = none := rfl
  exact
    { method_eq := rfl
      path_eq := by cases action <;> rfl
      not_announcesTooMuch := by rw [announcesTooMuch, hannounced]
      bringsJson := by
        have hheader : (jsonPost action json).header? "content-type".toList = some jsonType := rfl
        rw [Service.bringsJson, hheader]
        decide
      length_le := by
        rw [bodyLimit, hannounced]
        exact Nat.le_trans (Nat.le_of_eq (Text.length_utf8 json)) hsize }

/-! ## Other requests -/

theorem path_eq_of_ofPath? {path : Text} {endpoint : Endpoint}
    (h : Endpoint.ofPath? path = some endpoint) : path = endpoint.path := by
  have := List.find?_some h
  simpa [eq_comm] using this

/-- A body that is not read is turned down. -/
theorem answer_of_not_reaches (hmethod : r.method = "POST".toList) (hpath : r.path = action.path)
    (hannounces : announcesTooMuch settings r = false) (h : ¬Reaches settings r action)
    (clock : Calendar.Clock) :
    answer settings clock r action = .error .notJson ∨
      answer settings clock r action = .error .tooLong := by
  rw [answer]
  by_cases hjson : bringsJson r = true
  · by_cases hlength : r.body.length ≤ bodyLimit settings r
    · exact absurd ⟨hmethod, hpath, hannounces, hjson, hlength⟩ h
    · right
      rw [hjson, Bool.not_true, if_neg Bool.false_ne_true, if_pos (Nat.lt_of_not_le hlength)]
  · left
    rw [Bool.not_eq_true] at hjson
    rw [hjson, Bool.not_false, if_pos rfl]

theorem serve_of_not_reaches {endpoint : Endpoint} (hpath : r.path = endpoint.path)
    (hmethod : endpoint.methods.contains r.method = true)
    (hannounces : announcesTooMuch settings r = false) (h : ∀ action, ¬Reaches settings r action)
    (moment : Moment) (metrics : Metrics) : ∃ response, IsAside moment metrics r response ∧
      serve settings moment metrics r endpoint = ⟨response, []⟩ := by
  cases endpoint with
  | page page =>
    have hpost : r.method ≠ "POST".toList := by
      intro he
      have hpages : ["GET".toList, "HEAD".toList].contains "POST".toList = false := by decide
      rw [he, Endpoint.methods, hpages] at hmethod
      cases hmethod
    rw [serve]
    split_ifs
    · exact ⟨_, .empty _ _ fun he => absurd he hpost, rfl⟩
    · exact ⟨_, .page page hpost, rfl⟩
  | action action =>
    have hpost : r.method = "POST".toList := by
      simpa [Endpoint.methods] using hmethod
    rw [serve_action]
    rcases answer_of_not_reaches hpost hpath hannounces (h action) moment.clock with he | he
    · rw [he]
      exact ⟨refusal 415, .empty 415 _ fun _ => by decide, rfl⟩
    · rw [he]
      exact ⟨refusal 413, .empty 413 _ fun _ => by decide, rfl⟩

theorem respond_of_not_reaches (h : ∀ action, ¬Reaches settings r action) (moment : Moment)
    (metrics : Metrics) : ∃ response, IsAside moment metrics r response ∧
      respond settings moment metrics r = ⟨response, []⟩ := by
  have hfailure (status : ℕ) (headers : List (Text × Text)) (hstatus : status ≠ 200) :
      IsAside moment metrics r ⟨status, headers, .empty⟩ :=
    .empty status headers fun _ => hstatus
  rw [respond]
  by_cases hoptions : r.method = "OPTIONS".toList
  · rw [if_pos hoptions]
    refine ⟨_, .empty 200 _ fun hpost => ?_, rfl⟩
    rw [hoptions] at hpost
    exact absurd hpost (by decide)
  rw [if_neg hoptions]
  cases hendpoint : Endpoint.ofPath? r.path with
  | none =>
    simp only
    split_ifs
    · exact ⟨_, hfailure 413 _ (by decide), rfl⟩
    · exact ⟨_, hfailure 404 _ (by decide), rfl⟩
  | some endpoint =>
    simp only
    split_ifs with hmethod hannounces hannounces
    · exact ⟨_, hfailure 413 _ (by decide), rfl⟩
    · rw [Bool.not_eq_true] at hannounces
      exact serve_of_not_reaches (path_eq_of_ofPath? hendpoint) hmethod hannounces h moment metrics
    · exact ⟨_, hfailure 413 _ (by decide), rfl⟩
    · exact ⟨_, hfailure 405 _ (by decide), rfl⟩

/-- Whatever is asked, an action is reached or the answer is given aside. -/
theorem respond_cases (settings : Settings) (moment : Moment) (metrics : Metrics)
    (r : Http.Request) :
    (∃ action, Reaches settings r action ∧ respond settings moment metrics r =
      outcomeOf (perform settings.merge moment.clock r.body action)) ∨
    ∃ response, IsAside moment metrics r response ∧
      respond settings moment metrics r = ⟨response, []⟩ := by
  by_cases h : ∃ action, Reaches settings r action
  · obtain ⟨action, h⟩ := h
    exact Or.inl ⟨action, h, respond_of_reaches h moment metrics⟩
  · exact Or.inr (respond_of_not_reaches (not_exists.mp h) moment metrics)

end FormLetter.Service
