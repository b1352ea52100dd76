import FormLetter.Configuration.Path
import FormLetter.Text.Case

/-!
# Configuration from the environment

The environment is a list of variables. Those whose names begin with the marker of the program set
values: the rest of the name is the key, in which two underscores separate names, and the text of
the variable is read as the most specific scalar that it can be.
-/

namespace FormLetter.Configuration

/-- Variables of the environment and their texts. -/
abbrev Environment := List (Text × Text)

namespace Environment

/-- The text of a variable. -/
def get? (env : Environment) (name : Text) : Option Text := env.lookup name

/-- The environment with a variable that is not there yet. -/
def addNew (env : Environment) (name text : Text) : Environment :=
  if (env.get? name).isSome then env else env ++ [(name, text)]

/-- How error messages call the environment. -/
def origin : Text := "the environment".toList

/-- How names of variables that configure the program begin, letter case aside. -/
def marker : Text := "mailmerge_".toList

/-- The text with a full stop in place of two underscores, wherever two stand. -/
def dotted : Text → Text
  | '_' :: '_' :: rest => '.' :: dotted rest
  | c :: rest => c :: dotted rest
  | [] => []

/-- The key that a variable sets. -/
def key? (name : Text) : Option Text :=
  let lowered := name.lower
  if marker.isPrefixOf lowered then some (dotted (lowered.drop marker.length)) else none

/-- The scalar that a text stands for: a truth value, an integer, a fraction, or the text. -/
def scalarOf (t : Text) : Scalar :=
  let lowered := t.lower
  if lowered = "true".toList then .bool true
  else if lowered = "false".toList then .bool false
  else
    match Numeral.integer? t with
    | some n => .integer n
    | none =>
      match Numeral.fraction? t with
      | some x => .float x
      | none => .text t

/-- The values that the environment sets, by their keys. -/
def source (env : Environment) : List (Text × Value) :=
  env.filterMap fun v => (key? v.1).map fun key => (key, .scalar (some origin) (scalarOf v.2))

end Environment

end FormLetter.Configuration
