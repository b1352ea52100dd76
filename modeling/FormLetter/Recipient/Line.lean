import FormLetter.Text.Blank
import FormLetter.Text.Case

/-!
# Recipient lines

A recipient is one line of text: the address, and fields `key=value` after it, all of them
separated by vertical bars. Segments without an equals sign say nothing.
-/

namespace FormLetter.Recipient

/-- The form in which field names are stored and looked up: trimmed and in lower case. -/
def fieldKey (name : Text) : Text := name.trim.lower

/-- The name and the value that a segment gives, if it has an equals sign. The first one divides
them. -/
def field? (segment : Text) : Option (Text × Text) :=
  (segment.cut? '=').map fun sides => (fieldKey sides.1, sides.2.trim)

/-- What a recipient line says: the address, and the fields in their order. -/
structure Line where
  address : Text
  fields : List (Text × Text)
  deriving DecidableEq, Repr

namespace Line

/-- Reads a recipient line, as `build` does. -/
def read (raw : Text) : Line :=
  let parts := raw.trim.split '|'
  ⟨parts.1, parts.2.filterMap field?⟩

/-- A field, written out. -/
def fieldText (field : Text × Text) : Text := field.1 ++ '=' :: field.2

/-- The line, written out. A bar always ends the address, so that blanks at its end are kept. -/
def text (line : Line) : Text :=
  line.address ++ '|' ::
    match line.fields with
    | [] => []
    | first :: others => Text.join '|' (fieldText first) (others.map fieldText)

end Line

end FormLetter.Recipient
