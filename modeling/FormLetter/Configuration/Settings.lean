import FormLetter.Configuration.Value
import FormLetter.Number.Numeral
import FormLetter.Number.Shortest
import FormLetter.Settings
import FormLetter.Text.Quoted

/-!
# Settings from configuration

Settings are read from three sections of the configuration. What is absent has its default. A value
of another kind is converted if there is a way: numbers and truth values to text, and text,
fractions and truth values to numbers. A section can also be a list of its values in their order.
-/

namespace FormLetter.Configuration

/-- Why settings cannot be read. -/
inductive Fault
  /-- A value is no natural number. -/
  | notNatural (key : Text) (found : Value)
  /-- A value is no text. -/
  | notText (key : Text) (found : Value)
  /-- A number is too great for a port. -/
  | portTooGreat (key : Text) (n : Nat)
  /-- A value is no section; `section` is what it should be. -/
  | notSection (expected : Text) (found : Value)
  /-- A log format has an unknown name. -/
  | unknownLogFormat (name : Text)
  /-- A value is no log format. -/
  | notLogFormat

/-! ## Messages -/

/-- How fractions are written: without an exponent. A whole number is `pointed` in messages only. -/
def fractionFormat (pointed : Bool) : Binary64.FractionFormat := ⟨.up, none, pointed⟩

/-- A truth value in words. -/
def boolText (b : Bool) : Text := if b then "true".toList else "false".toList

/-- A value between backticks, after what it is. -/
def ticked (kind shown : Text) : Text := kind ++ " `".toList ++ shown ++ "`".toList

/-- A value as messages name it; `integerKind` is what they call integers. -/
def Value.describe (integerKind : Text) : Value → Text
  | .scalar _ .nothing => "unit value".toList
  | .scalar _ (.bool b) => ticked "boolean".toList (boolText b)
  | .scalar _ (.integer n) => ticked integerKind (Text.ofInt n)
  | .scalar _ (.float x) => ticked "floating point".toList (x.text (fractionFormat true))
  | .scalar _ (.text t) => "string ".toList ++ t.quoted
  | .list _ _ => "sequence".toList
  | .table _ _ => "map".toList

/-- What was found and what was expected. -/
def wrongType (found expected : Text) : Text :=
  "invalid type: ".toList ++ found ++ ", expected ".toList ++ expected

/-- What was found and what was expected at a key, and where that was set. -/
def wrongTypeAt (key : Text) (found : Value) (expected : Text) : Text :=
  wrongType (found.describe "64-bit integer".toList) expected ++
    ticked " for key".toList key ++
    match found.origin? with
    | some origin => " in ".toList ++ origin
    | none => []

/-- The fault in words. -/
def Fault.message : Fault → Text
  | notNatural key found =>
    wrongTypeAt key found <|
      match found with
      | .scalar _ (.integer _) => "an unsigned 64 bit or less integer".toList
      | _ => "an integer".toList
  | notText key found => wrongTypeAt key found "a string".toList
  | portTooGreat key n =>
    wrongType (ticked "64-bit unsigned integer".toList (Text.ofNat n))
      "an unsigned 16 bit integer".toList ++ ticked " for key".toList key
  | notSection expected found => wrongType (found.describe "integer".toList) expected
  | unknownLogFormat name => "enum LogFormat does not have variant constructor ".toList ++ name
  | notLogFormat =>
    "value of enum LogFormat should be represented by either string or table ".toList ++
      "with exactly one key".toList

/-! ## Conversions -/

/-- The greatest natural number of 64 bits. -/
def greatestNatural : Nat := UInt64.size - 1

/-- The natural number that a text stands for. -/
def naturalOfText? (t : Text) : Option Nat :=
  let word := t.lower
  if word ∈ ["true".toList, "on".toList, "yes".toList] then some 1
  else if word ∈ ["false".toList, "off".toList, "no".toList] then some 0
  else Numeral.natural? t

/-- The natural number that a scalar stands for. -/
def Scalar.natural? : Scalar → Option Nat
  | nothing => none
  | bool b => some (if b then 1 else 0)
  | integer n => if n < 0 then none else some n.toNat
  | float x => some (x.toNatClamped greatestNatural)
  | text t => naturalOfText? t

/-- The text that a scalar stands for. -/
def Scalar.text? : Scalar → Option Text
  | nothing => none
  | bool b => some (boolText b)
  | integer n => some (Text.ofInt n)
  | float x => some (x.text (fractionFormat false))
  | text t => some t

/-- The log format with a name, letter case aside. -/
def logFormatOf? (name : Text) : Option LogFormat :=
  let word := name.lower
  if word = "text".toList then some .text
  else if word = "json".toList then some .json
  else none

/-- Reads a natural number. -/
def readNatural (key : Text) (value : Value) : Except Fault Nat :=
  match value with
  | .scalar _ s =>
    match s.natural? with
    | some n => .ok n
    | none => .error (.notNatural key value)
  | _ => .error (.notNatural key value)

/-- Reads a port. -/
def readPort (key : Text) (value : Value) : Except Fault Nat := do
  let n ← readNatural key value
  if n < UInt16.size then .ok n else .error (.portTooGreat key n)

/-- Reads a text. -/
def readText (key : Text) (value : Value) : Except Fault Text :=
  match value with
  | .scalar _ s =>
    match s.text? with
    | some t => .ok t
    | none => .error (.notText key value)
  | _ => .error (.notText key value)

/-- Reads a log format, which a text names or the only entry of a table. -/
def readLogFormat (_key : Text) (value : Value) : Except Fault LogFormat :=
  let named (name : Text) : Except Fault LogFormat :=
    match logFormatOf? name with
    | some format => .ok format
    | none => .error (.unknownLogFormat name)
  match value with
  | .scalar _ (.text t) => named t
  | .table _ [(name, _)] => named name
  | _ => .error .notLogFormat

/-! ## Sections -/

/-- The values of a section with their keys, in the order of its fields. A value is absent where
none is set. -/
abbrev Fields := List (Text × Option Value)

/-- The fields of a section, which is a table or a list. `expected` is what messages call it. -/
def fieldsOf (sectionName expected : Text) (names : List Text) (value : Option Value) :
    Except Fault Fields :=
  match value with
  | none => .ok (names.map fun n => (n, none))
  | some (.table _ es) =>
    .ok (names.map fun n => (sectionName ++ '.' :: n, es.lookup n))
  | some (.list _ items) =>
    .ok (names.zipIdx.map fun (_, i) =>
      (sectionName ++ '[' :: Text.ofNat i ++ [']'], items[i]?))
  | some (.scalar origin s) => .error (.notSection expected (.scalar origin s))

/-- Reads the field at a place, and takes a default if it is absent. -/
def readField {α : Type} (fields : Fields) (place : Nat) (absent : α)
    (read : Text → Value → Except Fault α) : Except Fault α :=
  match fields[place]? with
  | some (key, some value) => read key value
  | _ => .ok absent

/-- Reads the settings of the server. -/
def readServer (value : Option Value) : Except Fault ServerSettings := do
  let d : ServerSettings := {}
  let fields ← fieldsOf "server".toList "struct ServerConfig".toList
    ["host".toList, "port".toList, "max_body_bytes".toList] value
  .ok
    { host := ← readField fields 0 d.host readText
      port := ← readField fields 1 d.port readPort
      maxBodyBytes := ← readField fields 2 d.maxBodyBytes readNatural }

/-- Reads the settings of merging. -/
def readMerge (value : Option Value) : Except Fault MergeSettings := do
  let d : MergeSettings := {}
  let fields ← fieldsOf "merge".toList "struct MergeConfig".toList
    ["unsubscribe_base".toList, "max_batch_size".toList, "max_output_bytes".toList] value
  .ok
    { unsubscribeBase := ← readField fields 0 d.unsubscribeBase readText
      maxBatchSize := ← readField fields 1 d.maxBatchSize readNatural
      maxOutputBytes := ← readField fields 2 d.maxOutputBytes readNatural }

/-- Reads the settings of the log. -/
def readLog (value : Option Value) : Except Fault LogSettings := do
  let d : LogSettings := {}
  let fields ← fieldsOf "log".toList "struct LogConfig".toList ["format".toList] value
  .ok { format := ← readField fields 0 d.format readLogFormat }

/-- Reads all settings. -/
def readSettings (value : Value) : Except Fault Settings := do
  .ok
    { server := ← readServer (value.get? "server".toList)
      merge := ← readMerge (value.get? "merge".toList)
      log := ← readLog (value.get? "log".toList) }

end FormLetter.Configuration
