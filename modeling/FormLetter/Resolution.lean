import FormLetter.Recipient.Build
import FormLetter.Template

/-!
# Resolving templates

A template is resolved against a record in one pass: every placeholder gives way to the value of
its variable, which is copied as it is and not read again, and everything else stays.
-/

namespace FormLetter

/-- A resolved template, with the variables that the record lacked. -/
structure Resolution where
  message : Text
  /-- Names in lower case, in increasing order. -/
  unknown : List Text
  deriving DecidableEq, Repr

namespace Record

/-- What a piece of a template becomes. A variable that the record lacks becomes nothing. -/
def fill (record : Record) : Piece → Text
  | .literal c => [c]
  | .placeholder p => record.get p.name

/-- The name of a placeholder whose variable the record lacks. -/
def lacking? (record : Record) (p : Placeholder) : Option Text :=
  if (record.get? p.name).isNone then some p.key else none

/-- Resolves a template: `resolve_with_report`. -/
def resolve (record : Record) (template : Text) : Resolution where
  message := (Template.pieces template).flatMap record.fill
  unknown := Names.ofList ((Template.placeholders template).filterMap record.lacking?)

end Record

/-- Resolves a template for a recipient line: `apply`. An empty template needs no record. -/
def Context.apply (context : Context) (template line : Text) : Text :=
  if template.isEmpty then [] else ((context.record line).resolve template).message

end FormLetter
