import FormLetter.Proofs.SkippedJson
import FormLetter.Service.Requests

/-!
# Written forms and requests

Specification: `Form.IsWritten` says which members of an object make which form: a known field has
an entry of its kind and occurs once, and other members do not count.

* `Form.read_object`: an object whose members make a form is read as that form, with blanks around
  it and whatever the other members hold.
* `Form.read_list`: so is the list of the entries of the first fields.
* `ParseRequest.read_toJson` and the like: every request that clients can make is read from what is
  written for it.
-/

namespace FormLetter

open Json Text

/-! ## Specification -/

/-- The kind of an entry. -/
def Entry.kind : Entry → EntryKind
  | text _ => .text
  | texts _ => .texts

/-- The value that is written for an entry. -/
def Entry.toJson : Entry → Json
  | text none => .null
  | text (some t) => .text t
  | texts ts => .texts ts

namespace Form

/-- The members that make one form of another. Members without a field are of
no account. -/
inductive IsWritten (fields : FormFields) : Form → List (Text × Json) → Form → Prop
  | nil (form : Form) : IsWritten fields form [] form
  | known {form form' : Form} {name : Text} {entry : Entry} {members : List (Text × Json)} :
    fields.lookup name = some entry.kind → form.lookup name = none →
    IsWritten fields (form ++ [(name, entry)]) members form' →
    IsWritten fields form ((name, entry.toJson) :: members) form'
  | other {form form' : Form} {name : Text} {value : Json} {depth : ℕ}
    {members : List (Text × Json)} :
    fields.lookup name = none → value.Fits depth → IsWritten fields form members form' →
    IsWritten fields form ((name, value) :: members) form'

/-! ## Entries -/

theorem length_le_length_printItems (items : List Json) :
    items.length ≤ (printItems items).length := by
  induction items with
  | nil => simp
  | cons item items ih =>
    simp [printItems]
    omega

theorem readText_stringText (t : Text) (rest : List UInt8) :
    readText (utf8 (stringText t) ++ rest) = .ok (t, rest) := by
  rw [readText, utf8_stringText, skipBlanks_cons (by decide)]
  simp [string?_stringText, orMalformed]

/-- The texts of a written list are read up to its closing bracket. -/
theorem readItems_print (t : Text) (ts : List Text) {fuel : ℕ} (hfuel : ts.length < fuel)
    (rest : List UInt8) :
    readItems fuel (utf8 (stringText t) ++ (utf8 (printItems (ts.map .text)) ++ 0x5D :: rest)) =
      .ok (t :: ts, rest) := by
  obtain ⟨fuel, rfl⟩ : ∃ n, fuel = n + 1 := ⟨fuel - 1, by omega⟩
  induction ts generalizing t fuel with
  | nil =>
    rw [readItems, readText_stringText]
    rfl
  | cons next ts ih =>
    rw [List.length_cons] at hfuel
    obtain ⟨fuel, rfl⟩ : ∃ n, fuel = n + 1 := ⟨fuel - 1, by omega⟩
    have hread := ih next fuel (by omega)
    rw [utf8_stringText] at hread
    rw [readItems, readText_stringText, List.map_cons, utf8_printItems, print, utf8_stringText]
    simp [bind, Except.bind, skipBlanks_cons, isBlankByte, hread, Except.map]

theorem readTexts_print (ts : List Text) (rest : List UInt8) :
    readTexts (utf8 (print (.texts ts)) ++ rest) = .ok (ts, rest) := by
  cases ts with
  | nil => rfl
  | cons t ts =>
    have hlength : ts.length < (utf8 (stringText t) ++
        (utf8 (printItems (ts.map .text)) ++ 0x5D :: rest)).length := by
      have := length_le_length_printItems (ts.map .text)
      have := length_le_length_utf8 (printItems (ts.map .text))
      simp only [List.length_map, List.length_append, List.length_cons] at *
      omega
    have hread := readItems_print t ts hlength rest
    rw [utf8_stringText] at hread
    rw [Json.texts, List.map_cons, utf8_print_list, print, readTexts, skipBlanks_cons (by decide),
      utf8_stringText]
    simp only [skipBlanks_cons (b := 0x22) (by decide)]
    simpa using hread

/-- An entry is read from what is written for it. -/
theorem readEntry_toJson (entry : Entry) (rest : List UInt8) :
    readEntry entry.kind (utf8 (print entry.toJson) ++ rest) = .ok (entry, rest) := by
  match entry with
  | .text none =>
    have hnull : utf8 (print .null) ++ rest = 0x6E :: (utf8 "ull".toList ++ rest) := rfl
    rw [Entry.toJson, hnull, Entry.kind, readEntry, readOptional, skipBlanks_cons (by decide)]
    simp only [word?_append]
    rfl
  | .text (some t) =>
    have hread := readText_stringText t rest
    change (readOptional (utf8 (stringText t) ++ rest)).map _ = _
    rw [utf8_stringText] at hread ⊢
    rw [readOptional, skipBlanks_cons (by decide)]
    simp [hread, Except.map]
  | .texts ts =>
    change (readTexts (utf8 (print (.texts ts)) ++ rest)).map _ = _
    rw [readTexts_print]
    rfl

/-! ## Objects -/

theorem length_le_length_printMembers (members : List (Text × Json)) :
    members.length ≤ (printMembers members).length := by
  induction members with
  | nil => simp
  | cons member members ih =>
    simp [printMembers]
    omega

/-- What is read after a member: the next one behind a comma, or the end. -/
def readFurther (fields : FormFields) (fuel : ℕ) (form : Form) (bytes : List UInt8) :
    Except FormFault (Form × List UInt8) :=
  match skipBlanks bytes with
  | 0x2C :: rest => readMembers fields fuel form rest
  | 0x7D :: rest => .ok (form, rest)
  | _ => .error .malformed

/-- The entry of a known field is read. -/
theorem readMembers_known {fields : FormFields} {form : Form} {name : Text} {entry : Entry}
    (hfield : fields.lookup name = some entry.kind) (hnew : form.lookup name = none) (fuel : ℕ)
    (rest : List UInt8) :
    readMembers fields (fuel + 1) form
        (utf8 (stringText name) ++ 0x3A :: (utf8 (print entry.toJson) ++ rest)) =
      readFurther fields fuel (form ++ [(name, entry)]) rest := by
  rw [readMembers, utf8_stringText, skipBlanks_cons (by decide)]
  simp only [string?_stringText, orMalformed, hfield, hnew, colon?_cons, readEntry_toJson, bind,
    Except.bind]
  rfl

/-- A member without a field is left out. -/
theorem readMembers_other {fields : FormFields} {form : Form} {name : Text} {value : Json}
    {depth : ℕ} (hfield : fields.lookup name = none) (hvalue : value.Fits depth) (fuel : ℕ)
    {rest : List UInt8} (hrest : EndsNumeral rest) :
    readMembers fields (fuel + 1) form
        (utf8 (stringText name) ++ 0x3A :: (utf8 (print value) ++ rest)) =
      readFurther fields fuel form rest := by
  rw [readMembers, utf8_stringText, skipBlanks_cons (by decide)]
  simp only [string?_stringText, orMalformed, hfield, colon?_cons, skipValue?_print hvalue hrest,
    bind, Except.bind]
  rfl

/-- The first member is read, known or not. -/
theorem exists_readMembers_eq {fields : FormFields} {form form' : Form} {name : Text}
    {value : Json} {members : List (Text × Json)}
    (h : IsWritten fields form ((name, value) :: members) form') (fuel : ℕ) {rest : List UInt8}
    (hrest : EndsNumeral rest) :
    ∃ next, IsWritten fields next members form' ∧
      readMembers fields (fuel + 1) form
          (utf8 (stringText name) ++ 0x3A :: (utf8 (print value) ++ rest)) =
        readFurther fields fuel next rest := by
  cases h with
  | known hfield hnew h => exact ⟨_, h, readMembers_known hfield hnew fuel rest⟩
  | other hfield hvalue h => exact ⟨_, h, readMembers_other hfield hvalue fuel hrest⟩

/-- The members of a written object are read up to its closing brace. -/
theorem readMembers_print {fields : FormFields} {form form' : Form} {name : Text} {value : Json}
    {members : List (Text × Json)} (h : IsWritten fields form ((name, value) :: members) form')
    {fuel : ℕ} (hfuel : members.length < fuel) (rest : List UInt8) :
    readMembers fields fuel form (utf8 (stringText name) ++ 0x3A :: (utf8 (print value) ++
      (utf8 (printMembers members) ++ 0x7D :: rest))) = .ok (form', rest) := by
  obtain ⟨fuel, rfl⟩ : ∃ n, fuel = n + 1 := ⟨fuel - 1, by omega⟩
  obtain ⟨next, hnext, hread⟩ :=
    exists_readMembers_eq h fuel (endsNumeral_printMembers members rest)
  rw [hread]
  induction members generalizing form name value next fuel with
  | nil =>
    cases hnext
    simp [readFurther, printMembers, utf8_nil, skipBlanks_cons, isBlankByte]
  | cons member members ih =>
    rw [List.length_cons] at hfuel
    obtain ⟨fuel, rfl⟩ : ∃ n, fuel = n + 1 := ⟨fuel - 1, by omega⟩
    obtain ⟨after, hafter, hread'⟩ :=
      exists_readMembers_eq hnext fuel (endsNumeral_printMembers members rest)
    rw [utf8_printMembers, readFurther, skipBlanks_cons (by decide)]
    simp only [hread']
    exact ih hnext fuel (by omega) after hafter hread'

/-- **Reading a written form.** An object is read as the form that its members
make. -/
theorem read_object {fields : FormFields} {members : List (Text × Json)} {form : Form}
    (h : IsWritten fields [] members form) {before after : List UInt8}
    (hbefore : ∀ b ∈ before, isBlankByte b = true) (hafter : ∀ b ∈ after, isBlankByte b = true) :
    read fields (before ++ (utf8 (print (.object members)) ++ after)) = .ok form := by
  rw [read, skipBlanks_append hbefore]
  match members with
  | [] =>
    cases h
    have hempty : utf8 (print (.object [])) ++ after = 0x7B :: 0x7D :: after := rfl
    rw [hempty, skipBlanks_cons (by decide)]
    simp [skipBlanks_cons, isBlankByte, skipBlanks_of_blanks hafter, bind, Except.bind]
  | (name, value) :: members =>
    have hlength : members.length < (utf8 (stringText name) ++ 0x3A :: (utf8 (print value) ++
        (utf8 (printMembers members) ++ 0x7D :: after))).length := by
      have := length_le_length_printMembers members
      have := length_le_length_utf8 (printMembers members)
      simp only [List.length_append, List.length_cons]
      omega
    have hread := readMembers_print h hlength after
    rw [utf8_stringText] at hread
    rw [utf8_print_object, skipBlanks_cons (by decide), utf8_stringText]
    simp only [List.length_append, List.length_cons] at hread
    simp [skipBlanks_cons (b := 0x22) (by decide), hread, skipBlanks_of_blanks hafter, bind,
      Except.bind]

/-! ## Lists -/

theorem itemsFit_texts (depth : ℕ) (ts : List Text) : ItemsFit depth (ts.map .text) := by
  rw [itemsFit_iff, List.forall_mem_map]
  exact fun _ _ => trivial

theorem fits_toJson (entry : Entry) : entry.toJson.Fits 1 := by
  match entry with
  | .text none => trivial
  | .text (some t) => trivial
  | .texts ts => exact ⟨Nat.one_pos, itemsFit_texts 0 ts⟩

/-- After a comma the next entry is read like the first one. -/
theorem readPositional_comma (fields : FormFields) (entry : Entry) (rest : List UInt8) :
    readPositional false fields (0x2C :: (utf8 (print entry.toJson) ++ rest)) =
      readPositional true fields (utf8 (print entry.toJson) ++ rest) := by
  obtain ⟨b, bytes, hbytes, hblank, hbracket, -⟩ := startsValue_print (fits_toJson entry) rest
  rw [hbytes]
  match fields with
  | [] => simp [readPositional, skipBlanks_cons (b := 0x2C) (by decide), skipBlanks_cons hblank,
      hbracket]
  | (name, kind) :: fields =>
    simp [readPositional, skipBlanks_cons (b := 0x2C) (by decide), skipBlanks_cons hblank, hbracket,
      bind, Except.bind]

/-- The first entry is read for the first field, and then what is left. -/
theorem readPositional_entry (name : Text) (fields : FormFields) (entry : Entry)
    (rest : List UInt8) :
    readPositional true ((name, entry.kind) :: fields) (utf8 (print entry.toJson) ++ rest) =
      (readPositional false fields rest).map fun r => ((name, entry) :: r.1, r.2) := by
  obtain ⟨b, bytes, hbytes, hblank, hbracket, -⟩ := startsValue_print (fits_toJson entry) rest
  have hentry := readEntry_toJson entry rest
  rw [hbytes] at hentry ⊢
  rw [readPositional]
  simp only [skipBlanks_cons hblank]
  split
  · rename_i heq
    exact absurd (List.cons.inj heq).1 hbracket
  · simp only [if_true, hentry, bind, Except.bind, Except.map]

/-- Entries that are left are read up to the closing bracket. -/
theorem readPositional_print {fields : FormFields} {form : Form}
    (hkinds : (form.map fun e => (e.1, e.2.kind)) <+: fields) (rest : List UInt8) :
    readPositional false fields
      (utf8 (printItems (form.map fun e => e.2.toJson)) ++ 0x5D :: rest) = .ok (form, rest) := by
  induction form generalizing fields with
  | nil => cases fields <;> rfl
  | cons e form ih =>
    obtain ⟨left, rfl⟩ := hkinds
    simp only [List.map_cons, List.cons_append]
    rw [utf8_printItems, readPositional_comma, readPositional_entry, ih (List.prefix_append _ left)]
    rfl

/-- **Reading a form without names.** A list is read as the entries of the
first fields. -/
theorem read_list {fields : FormFields} {form : Form}
    (hkinds : (form.map fun e => (e.1, e.2.kind)) <+: fields) {before after : List UInt8}
    (hbefore : ∀ b ∈ before, isBlankByte b = true) (hafter : ∀ b ∈ after, isBlankByte b = true) :
    read fields (before ++ (utf8 (print (.list (form.map fun e => e.2.toJson))) ++ after)) =
      .ok form := by
  rw [read, skipBlanks_append hbefore]
  cases form with
  | nil =>
    have hempty : utf8 (print (.list [])) ++ after = 0x5B :: 0x5D :: after := rfl
    rw [List.map_nil, hempty, skipBlanks_cons (by decide)]
    cases fields <;>
      simp [readPositional, skipBlanks_cons, isBlankByte, skipBlanks_of_blanks hafter, bind,
        Except.bind]
  | cons e form =>
    obtain ⟨left, rfl⟩ := hkinds
    rw [List.map_cons, utf8_print_list, skipBlanks_cons (by decide)]
    simp only [List.map_cons, List.cons_append, readPositional_entry]
    rw [readPositional_print (List.prefix_append _ left)]
    simp [skipBlanks_of_blanks hafter, bind, Except.bind, Except.map]

end Form

/-! ## Requests -/

namespace Service

open Form

/-- The object that is written for a request. -/
def ParseRequest.toJson (r : ParseRequest) : Json :=
  .object [(lineField, Entry.toJson (.text r.line))]

/-- The object that is written for a request. -/
def ApplyRequest.toJson (r : ApplyRequest) : Json :=
  .object [(templateField, Entry.toJson (.text r.template)),
    (lineField, Entry.toJson (.text r.line))]

/-- The object that is written for a request. -/
def BatchRequest.toJson (r : BatchRequest) : Json :=
  .object [(subjectsField, Entry.toJson (.texts r.subjects)),
    (templateField, Entry.toJson (.text r.template)),
    (recipientsField, Entry.toJson (.texts r.recipients)),
    (recipientsFileField, Entry.toJson (.text r.recipientsFile))]

/-- The object that is written for a request. -/
def AnalyzeRequest.toJson (r : AnalyzeRequest) : Json :=
  .object [(templateField, Entry.toJson (.text r.template)),
    (lineField, Entry.toJson (.text r.line))]

/-- An object that is written without blanks around it is read. -/
theorem read_print {fields : FormFields} {members : List (Text × Json)} {form : Form}
    (h : IsWritten fields [] members form) :
    Form.read fields (utf8 (print (.object members))) = .ok form := by
  simpa using read_object h (List.forall_mem_nil _) (List.forall_mem_nil _)

theorem ParseRequest.read_toJson (r : ParseRequest) :
    ParseRequest.read (utf8 (print r.toJson)) = .ok r := by
  rw [ParseRequest.read, ParseRequest.toJson, read_print (.known rfl rfl (.nil _))]
  rfl

theorem ApplyRequest.read_toJson (r : ApplyRequest) :
    ApplyRequest.read (utf8 (print r.toJson)) = .ok r := by
  rw [ApplyRequest.read, ApplyRequest.toJson,
    read_print (.known rfl rfl (.known rfl rfl (.nil _)))]
  rfl

theorem BatchRequest.read_toJson (r : BatchRequest) :
    BatchRequest.read (utf8 (print r.toJson)) = .ok r := by
  rw [BatchRequest.read, BatchRequest.toJson, read_print
    (.known rfl rfl (.known rfl rfl (.known rfl rfl (.known rfl rfl (.nil _)))))]
  rfl

theorem AnalyzeRequest.read_toJson (r : AnalyzeRequest) :
    AnalyzeRequest.read (utf8 (print r.toJson)) = .ok r := by
  rw [AnalyzeRequest.read, AnalyzeRequest.toJson,
    read_print (.known rfl rfl (.known rfl rfl (.nil _)))]
  rfl

end Service

end FormLetter
