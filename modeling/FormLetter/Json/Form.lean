import FormLetter.Json.Read

/-!
# Forms

A form is a JSON object of which some fields are known, each with the kind of entry that it takes;
other members are skipped. Instead of an object the entries may be given as a list, in the order
of the fields, with the last ones left out.

Reading goes from left to right and stops at the first fault: bytes that are no JSON, or an entry
of another kind or a second entry for a field.
-/

namespace FormLetter

/-- What is wrong with the bytes of a form. -/
inductive FormFault
  /-- The bytes are no JSON. -/
  | malformed
  /-- The bytes so far are JSON, but not what the form takes. -/
  | mismatched
  deriving DecidableEq, Repr

/-- What a field of a form takes. -/
inductive EntryKind
  /-- A text or null. -/
  | text
  /-- A list of texts. -/
  | texts
  deriving DecidableEq, Repr

/-- What stands in a field of a form. -/
inductive Entry
  | text (t : Option Text)
  | texts (ts : List Text)
  deriving DecidableEq, Repr

/-- The known fields of a form, in their order. -/
abbrev FormFields := List (Text × EntryKind)

/-- The entries of a form by their field. -/
abbrev Form := List (Text × Entry)

namespace Form

/-- The text of a field; none if the field is null or left out. -/
def text? (form : Form) (name : Text) : Option Text :=
  match form.lookup name with
  | some (.text t) => t
  | _ => none

/-- The texts of a field; an empty list if the field is left out. -/
def texts (form : Form) (name : Text) : List Text :=
  match form.lookup name with
  | some (.texts ts) => ts
  | _ => []

open Json

/-- What has been read, or the fault of bytes that are no JSON. -/
def orMalformed {α : Type} : Option α → Except FormFault α
  | some x => .ok x
  | none => .error .malformed

/-- The fault of a value of the wrong kind. A text, a word or a number is read to its end first; a
number has to be small enough. -/
def mismatch (bytes : List UInt8) : FormFault :=
  let sound : Option Unit :=
    match bytes with
    | 0x22 :: rest => (string? rest).map fun _ => ()
    | 0x5B :: _ => some ()
    | 0x7B :: _ => some ()
    | 0x6E :: rest => (word? "ull" rest).map fun _ => ()
    | 0x74 :: rest => (word? "rue" rest).map fun _ => ()
    | 0x66 :: rest => (word? "alse" rest).map fun _ => ()
    | bytes => do
      let (parts, _) ← numeral? bytes
      let _ ← parts.value?
      some ()
  if sound.isSome then .mismatched else .malformed

/-- A text. -/
def readText (bytes : List UInt8) : Except FormFault (Text × List UInt8) :=
  match skipBlanks bytes with
  | 0x22 :: rest => orMalformed (string? rest)
  | bytes => .error (mismatch bytes)

/-- A text or null. -/
def readOptional (bytes : List UInt8) : Except FormFault (Option Text × List UInt8) :=
  match skipBlanks bytes with
  | 0x6E :: rest => orMalformed ((word? "ull" rest).map (none, ·))
  | bytes => (readText bytes).map fun r => (some r.1, r.2)

/-- The texts of a list, of which at least one has to follow. -/
def readItems : Nat → List UInt8 → Except FormFault (List Text × List UInt8)
  | 0, _ => .error .malformed
  | fuel + 1, bytes => do
    let (t, rest) ← readText bytes
    match skipBlanks rest with
    | 0x2C :: rest =>
      match skipBlanks rest with
      | 0x5D :: _ => .error .malformed
      | rest => (readItems fuel rest).map fun r => (t :: r.1, r.2)
    | 0x5D :: rest => .ok ([t], rest)
    | _ => .error .malformed

/-- A list of texts. -/
def readTexts (bytes : List UInt8) : Except FormFault (List Text × List UInt8) :=
  match skipBlanks bytes with
  | 0x5B :: rest =>
    match skipBlanks rest with
    | 0x5D :: rest => .ok ([], rest)
    | rest => readItems rest.length rest
  | bytes => .error (mismatch bytes)

/-- An entry of some kind. -/
def readEntry (kind : EntryKind) (bytes : List UInt8) : Except FormFault (Entry × List UInt8) :=
  match kind with
  | .text => (readOptional bytes).map fun r => (.text r.1, r.2)
  | .texts => (readTexts bytes).map fun r => (.texts r.1, r.2)

/-- The members of an object after those that gave `form`, of which at least one has to follow. -/
def readMembers (fields : FormFields) :
    Nat → Form → List UInt8 → Except FormFault (Form × List UInt8)
  | 0, _, _ => .error .malformed
  | fuel + 1, form, bytes =>
    match skipBlanks bytes with
    | 0x22 :: rest => do
      let (name, rest) ← orMalformed (string? rest)
      let (form, rest) ←
        match fields.lookup name with
        | some kind =>
          if (form.lookup name).isSome then .error .mismatched
          else do
            let (entry, rest) ← readEntry kind (← orMalformed (colon? rest))
            .ok (form ++ [(name, entry)], rest)
        | none => do
          let rest ← orMalformed (skipValue? (← orMalformed (colon? rest)))
          .ok (form, rest)
      match skipBlanks rest with
      | 0x2C :: rest => readMembers fields fuel form rest
      | 0x7D :: rest => .ok (form, rest)
      | _ => .error .malformed
    | _ => .error .malformed

/-- The entries of a list for the fields that are left, of which the first one may have to follow
a comma. -/
def readPositional (first : Bool) : FormFields → List UInt8 → Except FormFault (Form × List UInt8)
  | [], bytes =>
    match skipBlanks bytes with
    | 0x5D :: rest => .ok ([], rest)
    | _ => .error .malformed
  | (name, kind) :: fields, bytes =>
    match skipBlanks bytes with
    | 0x5D :: rest => .ok ([], rest)
    | bytes => do
      let bytes ←
        if first then .ok bytes
        else
          match bytes with
          | 0x2C :: rest =>
            match skipBlanks rest with
            | 0x5D :: _ => .error .malformed
            | rest => .ok rest
          | _ => .error .malformed
      let (entry, rest) ← readEntry kind bytes
      let (form, rest) ← readPositional false fields rest
      .ok ((name, entry) :: form, rest)

/-- The form that some bytes are written for, blanks around it aside. -/
def read (fields : FormFields) (bytes : List UInt8) : Except FormFault Form := do
  let (form, rest) ←
    match skipBlanks bytes with
    | 0x7B :: rest =>
      match skipBlanks rest with
      | 0x7D :: rest => .ok ([], rest)
      | rest => readMembers fields rest.length [] rest
    | 0x5B :: rest => readPositional true fields rest
    | bytes => .error (mismatch bytes)
  if (skipBlanks rest).isEmpty then .ok form else .error .malformed

end Form

end FormLetter
