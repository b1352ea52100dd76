import FormLetter.Json.Print
import FormLetter.Mailing
import FormLetter.Text.Quoted

/-!
# Mailings in JSON

A mailing in JSON is an object with a body and perhaps subjects, or a list of the subjects and the
body. Other members of the object are ignored.
-/

namespace FormLetter

/-- A value as error messages name it. -/
def Json.describe : Json → Text
  | null => "null".toList
  | bool b => if b then "boolean `true`".toList else "boolean `false`".toList
  | integer n => "integer `".toList ++ Text.ofInt n ++ "`".toList
  | float x => "floating point `".toList ++ x.text fractionFormat ++ "`".toList
  | text t => "string ".toList ++ t.quoted
  | list _ => "sequence".toList
  | object _ => "map".toList

namespace Mailing

/-- Why a JSON value is no mailing. -/
inductive JsonFault
  /-- A value is of another kind than the one expected. -/
  | wrongKind (found : Json) (expected : Text)
  /-- An object has no body. -/
  | missingBody
  /-- A list ends before the body. -/
  | tooShort
  /-- A list goes on after the body. -/
  | tooLong (length : Nat)

/-- What is wrong, in words. -/
def JsonFault.message : JsonFault → Text
  | wrongKind found expected =>
    "invalid type: ".toList ++ found.describe ++ ", expected ".toList ++ expected
  | missingBody => "missing field `body`".toList
  | tooShort => "invalid length 1, expected struct MessageTemplate with 2 elements".toList
  | tooLong length =>
    "invalid length ".toList ++ Text.ofNat length ++
      ", expected fewer elements in array".toList

/-- A text. -/
def textOfJson : Json → Except JsonFault Text
  | .text t => .ok t
  | v => .error (.wrongKind v "a string".toList)

/-- A list of texts. -/
def textsOfJson : Json → Except JsonFault (List Text)
  | .list items => items.mapM textOfJson
  | v => .error (.wrongKind v "a sequence".toList)

/-- The mailing of a JSON value. The body of an object is looked at before its subjects. -/
def ofJson : Json → Except JsonFault Mailing
  | .object members => do
    let body ← (Json.member? members "body".toList).mapM textOfJson
    let subjects ← (Json.member? members "subjects".toList).mapM textsOfJson
    match body with
    | some body => .ok ⟨subjects.getD [], body⟩
    | none => .error .missingBody
  | .list [] => .error .tooShort
  | .list [subjects] => do
    let _ ← textsOfJson subjects
    .error .tooShort
  | .list (subjects :: body :: others) => do
    let subjects ← textsOfJson subjects
    let body ← textOfJson body
    if others.isEmpty then .ok ⟨subjects, body⟩ else .error (.tooLong (others.length + 2))
  | v => .error (.wrongKind v "struct MessageTemplate".toList)

end Mailing

end FormLetter
