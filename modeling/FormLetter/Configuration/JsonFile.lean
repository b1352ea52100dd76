import FormLetter.Configuration.Path
import FormLetter.Json.Read

/-!
# Configuration files in JSON

A file holds an object; its members are the entries that it sets. An integer that does not fit
into 64 bits with a sign counts as a fraction.
-/

namespace FormLetter.Configuration.JsonFile

mutual

/-- The configured value of a JSON value in a file. -/
def valueOf (origin : Text) : Json → Value
  | .null => .scalar (some origin) .nothing
  | .bool b => .scalar (some origin) (.bool b)
  | .integer n =>
    .scalar (some origin)
      (if 2 * n < UInt64.size then .integer n else .float (.ofRatio false n.natAbs 1))
  | .float x => .scalar (some origin) (.float x)
  | .text t => .scalar (some origin) (.text t)
  | .list items => .list (some origin) (valuesOf origin items)
  | .object members => .table (some origin) (entriesOf origin [] members)

/-- The configured values of JSON values. -/
def valuesOf (origin : Text) : List Json → List Value
  | [] => []
  | item :: items => valueOf origin item :: valuesOf origin items

/-- Entries and the members of an object, of which the last one with a name counts. -/
def entriesOf (origin : Text) (entries : List (Text × Value)) :
    List (Text × Json) → List (Text × Value)
  | [] => entries
  | (name, value) :: members =>
    entriesOf origin (putEntry name (valueOf origin value) entries) members

end

/-- The entries that a file sets; nothing if it does not hold an object. -/
def read? (origin : Text) (file : Text) : Option (List (Text × Value)) :=
  match Json.read? file.utf8 with
  | some (.object members) => some (entriesOf origin [] members)
  | _ => none

end FormLetter.Configuration.JsonFile
