import FormLetter.Http.Message
import FormLetter.Service.Encoding
import Mathlib.Data.List.Forall2
import Mathlib.Data.Nat.Notation

/-!
# Answers as clients read them

A client finds what it has asked for in the members of JSON objects, by their
names. A list that would be empty is left out.

Specification: `IsShownAs` says, of a message, of a resolved template, of the
use of a variable and of an analysis, which members the object that shows it
has to have.

Results:

* `isShownAs_toJson`: all of them are shown by the objects in which they are
  answered.
-/

namespace FormLetter

/-! ## Members of answers -/

namespace Json

/-- The member of a value with a name; nothing if the value is no object. -/
def get? (value : Json) (name : String) : Option Json :=
  match value with
  | object members => member? members name.toList
  | _ => none

/-- A member of a value shows a list of texts. It is left out if there are none. -/
def ShowsTexts (value : Json) (name : String) (items : List Text) : Prop :=
  value.get? name = if items = [] then none else some (.list (items.map text))

end Json

namespace Http.Response

/-- The JSON value that is the body; `null` if there is none. -/
def value (response : Response) : Json :=
  match response.body with
  | .json value => value
  | _ => .null

/-- The response reports success: by its status, and by a member. -/
structure IsSuccess (response : Response) : Prop where
  status_eq : response.status = 200
  success_eq : response.value.get? "success" = some (.bool true)

end Http.Response

/-! ## Specification -/

/-- A message as clients are shown it. Whether the address is malformed is said
only where it is. -/
structure Message.IsShownAs (m : Message) (shown : Json) : Prop where
  index_eq : shown.get? "index" = some (.integer m.index)
  email_eq : shown.get? "email" = some (.text m.email)
  subject_eq : shown.get? "subject" = some (.text m.subject)
  body_eq : shown.get? "body" = some (.text m.body)
  malformed_eq : shown.get? "malformedAddress" = if m.malformed then some (.bool true) else none
  unknown_eq : shown.ShowsTexts "unknownVariables" m.unknown

/-- A resolved template as clients are shown it. -/
structure Resolution.IsShownAs (resolution : Resolution) (shown : Json) : Prop where
  message_eq : shown.get? "result" = some (.text resolution.message)
  unknown_eq : shown.ShowsTexts "unknownVariables" resolution.unknown

/-- The use of a variable as clients are shown it. -/
structure Usage.IsShownAs (usage : Usage) (shown : Json) : Prop where
  name_eq : shown.get? "name" = some (.text usage.name)
  count_eq : shown.get? "count" = some (.integer usage.count)
  spellings_eq : shown.get? "spellings" = some (.list (usage.spellings.map .text))
  kind_eq : shown.get? "kind" =
    some (.text (if usage.kind = .builtin then "builtin".toList else "custom".toList))

/-- An analysis as clients are shown it. The names that are missing are listed,
even if there are none, where the template was analysed for a record. -/
structure Analysis.IsShownAs (analysis : Analysis) (shown : Json) : Prop where
  usages_eq : ∃ usages, shown.get? "variables" = some (.list usages) ∧
    List.Forall₂ Usage.IsShownAs analysis.usages usages
  total_eq : shown.get? "totalPlaceholders" = some (.integer analysis.total)
  inconsistent_eq :
    shown.get? "inconsistentNames" = some (.list (analysis.inconsistent.map .text))
  missing_eq : shown.get? "missing" = analysis.missing.map fun names => .list (names.map .text)

/-! ## Answers -/

theorem Message.isShownAs_toJson (m : Message) : m.IsShownAs m.toJson := by
  obtain ⟨index, email, subject, body, malformed, unknown⟩ := m
  cases malformed <;> cases unknown <;> exact ⟨rfl, rfl, rfl, rfl, rfl, rfl⟩

theorem Resolution.isShownAs_toJson (record : Record) (resolution : Resolution) :
    resolution.IsShownAs (Service.Answer.applied ⟨record, resolution⟩).toJson := by
  obtain ⟨message, unknown⟩ := resolution
  cases unknown <;> exact ⟨rfl, rfl⟩

theorem Service.Answer.get?_success_applied (a : Service.Applied) :
    (applied a).toJson.get? "success" = some (.bool true) := by
  obtain ⟨record, message, unknown⟩ := a
  cases unknown <;> rfl

theorem Usage.isShownAs_toJson (usage : Usage) : usage.IsShownAs usage.toJson := by
  obtain ⟨name, count, spellings, kind, braces⟩ := usage
  cases kind <;> exact ⟨rfl, rfl, rfl, rfl⟩

theorem Analysis.isShownAs_toJson (analysis : Analysis) :
    analysis.IsShownAs analysis.toJson := by
  have husages : List.Forall₂ Usage.IsShownAs analysis.usages
      (analysis.usages.map Usage.toJson) := by
    rw [List.forall₂_map_right_iff, List.forall₂_same]
    exact fun usage _ => usage.isShownAs_toJson
  obtain ⟨usages, total, inconsistent, missing⟩ := analysis
  cases missing <;> exact ⟨⟨_, rfl, husages⟩, rfl, rfl, rfl⟩

theorem Message.forall₂_isShownAs (messages : List Message) :
    List.Forall₂ Message.IsShownAs messages (messages.map Message.toJson) := by
  rw [List.forall₂_map_right_iff, List.forall₂_same]
  exact fun m _ => m.isShownAs_toJson

end FormLetter
