import FormLetter.Catalogue
import FormLetter.Recipient.Record
import FormLetter.Template

/-!
# Analysing templates

An analysis tells which variables a template uses, how often and in which spellings, which of them
are written with different numbers of braces, and, for a record, which of them it lacks.
-/

namespace FormLetter

/-- Whether a variable is built in or has to be given as a field. -/
inductive VariableKind
  | builtin
  | custom
  deriving DecidableEq, Repr

/-- How a template uses one variable: a `VariableUsage`. -/
structure Usage where
  /-- The name in lower case. -/
  name : Text
  count : Nat
  /-- The distinct placeholders as written, in the order of their first occurrence. -/
  spellings : List Text
  kind : VariableKind
  /-- The distinct numbers of opening and closing braces. -/
  braces : List (Braces × Braces)
  deriving DecidableEq, Repr

/-- Adds an item at the end unless it is there. -/
def appendNew {α : Type} [DecidableEq α] (items : List α) (x : α) : List α :=
  if x ∈ items then items else items ++ [x]

namespace Usage

/-- The use of a variable by a single placeholder. -/
def single (p : Placeholder) : Usage where
  name := p.key
  count := 1
  spellings := [p.text]
  kind := if isBuiltin p.key then .builtin else .custom
  braces := [(p.opening, p.closing)]

/-- The usage with one more placeholder. -/
def add (usage : Usage) (p : Placeholder) : Usage :=
  { usage with
    count := usage.count + 1
    spellings := appendNew usage.spellings p.text
    braces := appendNew usage.braces (p.opening, p.closing) }

end Usage

/-- The usages with one more placeholder. A variable that is new comes last. -/
def tally (usages : List Usage) (p : Placeholder) : List Usage :=
  match usages with
  | [] => [.single p]
  | u :: rest => if u.name = p.key then u.add p :: rest else u :: tally rest p

/-- How a template uses variables: a `TemplateAnalysis`. -/
structure Analysis where
  /-- The most used variables first, equally used ones in the order of their first occurrence. -/
  usages : List Usage
  /-- The number of placeholders. -/
  total : Nat
  /-- Names written with different numbers of braces, in the order of their first occurrence. -/
  inconsistent : List Text
  /-- Names that a record lacks, in the order of the usages. -/
  missing : Option (List Text) := none
  deriving DecidableEq, Repr

namespace Template

/-- The usages of the variables of a template in the order of their first occurrence. -/
def usages (template : Text) : List Usage := (placeholders template).foldl tally []

/-- The analysis of a template: `analyze`. -/
def analyze (template : Text) : Analysis where
  usages := (usages template).mergeSort fun u v => v.count ≤ u.count
  total := (placeholders template).length
  inconsistent := ((usages template).filter fun u => 1 < u.braces.length).map Usage.name

/-- The analysis of a template for a record: `analyze_against`. -/
def analyzeFor (template : Text) (record : Record) : Analysis :=
  let analysis := analyze template
  { analysis with
    missing := some ((analysis.usages.map Usage.name).filter fun n => !record.contains n) }

end Template

namespace Analysis

/-- Whether the template uses a variable, letter case of ASCII aside: `uses`. -/
def uses (analysis : Analysis) (name : Text) : Bool :=
  analysis.usages.any fun u => u.name = name.asciiLower

/-- The variables that are not built in: `custom_variables`. -/
def customVariables (analysis : Analysis) : List Usage :=
  analysis.usages.filter fun u => u.kind = .custom

end Analysis

end FormLetter
