import FormLetter.Number.Binary64
import FormLetter.Text.Basic

/-!
# JSON values

The values of JSON. An object is the list of its members as they stand; where a name occurs more
than once, the last member counts.
-/

namespace FormLetter

/-- A JSON value. Numbers without a fraction and an exponent that fit into 64 bits are integers. -/
inductive Json
  | null
  | bool (b : Bool)
  | integer (n : Int)
  | float (x : Binary64)
  | text (t : Text)
  | list (items : List Json)
  | object (members : List (Text × Json))

namespace Json

/-- The member of an object with a name. -/
def member? (members : List (Text × Json)) (name : Text) : Option Json :=
  members.reverse.lookup name

/-- A list of texts. -/
def texts (items : List Text) : Json := list (items.map text)

/-- A number without a fraction. -/
def natural (n : Nat) : Json := integer n

end Json

end FormLetter
