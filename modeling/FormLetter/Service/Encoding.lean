import FormLetter.Analysis
import FormLetter.Catalogue
import FormLetter.Failure
import FormLetter.Json.Value
import FormLetter.Service.Answers

/-!
# Answers in JSON

The JSON values in which the service gives its answers. A field that says nothing is left out.
-/

namespace FormLetter

/-- A member of an object. -/
def Json.field (name : String) (value : Json) : Text × Json := (name.toList, value)

/-- A member of an object, unless its list of texts is empty. -/
def Json.textsUnlessEmpty (name : String) (items : List Text) : List (Text × Json) :=
  if items.isEmpty then [] else [field name (texts items)]

open Json (field)

/-- A record as an object with a member for every variable. -/
def Record.toJson (record : Record) : Json :=
  .object (record.entries.map fun v => (v.1, .text v.2))

/-- A message. -/
def Message.toJson (m : Message) : Json :=
  .object <|
    [field "index" (.natural m.index), field "email" (.text m.email),
      field "subject" (.text m.subject), field "body" (.text m.body)] ++
    (if m.malformed then [field "malformedAddress" (.bool true)] else []) ++
    Json.textsUnlessEmpty "unknownVariables" m.unknown

/-- The kind of a variable. -/
def VariableKind.toJson : VariableKind → Json
  | builtin => .text "builtin".toList
  | custom => .text "custom".toList

/-- How a template uses one variable. -/
def Usage.toJson (usage : Usage) : Json :=
  .object
    [field "name" (.text usage.name), field "count" (.natural usage.count),
      field "spellings" (.texts usage.spellings), field "kind" usage.kind.toJson]

/-- An analysis. -/
def Analysis.toJson (analysis : Analysis) : Json :=
  .object <|
    [field "variables" (.list (analysis.usages.map Usage.toJson)),
      field "totalPlaceholders" (.natural analysis.total),
      field "inconsistentNames" (.texts analysis.inconsistent)] ++
    match analysis.missing with
    | some names => [field "missing" (.texts names)]
    | none => []

/-- An entry of the catalogue. -/
def CatalogueEntry.toJson (e : CatalogueEntry) : Json :=
  .object
    [field "name" (.text e.name), field "description" (.text e.description),
      field "example" (.text e.sample)]

/-- A fault as clients are told about it. -/
def Failure.toJson (production : Bool) (failure : Failure) : Json :=
  .object
    [field "success" (.bool false),
      field "error"
        (.object
          [field "code" (.text failure.code),
            field "message" (.text (failure.clientMessage production))])]

/-- An object that reports success. -/
def Json.success (members : List (Text × Json)) : Json :=
  .object (field "success" (.bool true) :: members)

/-- An answer. -/
def Service.Answer.toJson : Service.Answer → Json
  | parsed record => Json.success [field "variables" record.toJson]
  | applied a =>
    Json.success <|
      field "result" (.text a.resolution.message) ::
        Json.textsUnlessEmpty "unknownVariables" a.resolution.unknown
  | merged messages =>
    Json.success
      [field "total" (.natural messages.length),
        field "messages" (.list (messages.map Message.toJson))]
  | analyzed analysis => analysis.toJson

end FormLetter
