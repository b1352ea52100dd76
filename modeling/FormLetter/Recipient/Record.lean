import FormLetter.Names
import FormLetter.Recipient.Line

/-!
# Records

A record holds the variables of one recipient. Its names are in lower case and in increasing
order, each with one value, so that two records with the same content are equal.

Results:

* `lookup_put`: after a variable is set, its name has that value and the others keep theirs.
-/

namespace FormLetter

namespace Variables

/-- Sets a variable in a list with increasing names. -/
def put (name value : Text) : List (Text × Text) → List (Text × Text)
  | [] => [(name, value)]
  | (n, v) :: rest =>
    if name < n then (name, value) :: (n, v) :: rest
    else if name = n then (name, value) :: rest
    else (n, v) :: put name value rest

theorem lookup_cons {α : Type} (x n : Text) (v : α) (rest : List (Text × α)) :
    ((n, v) :: rest).lookup x = if x = n then some v else rest.lookup x := by
  by_cases h : x = n
  · simp [h]
  · simp [List.lookup_cons, h, beq_false_of_ne h]

theorem lookup_put (x name value : Text) (entries : List (Text × Text)) :
    (put name value entries).lookup x = if x = name then some value else entries.lookup x := by
  induction entries with
  | nil => simp [put]
  | cons entry rest ih =>
    obtain ⟨n, v⟩ := entry
    rw [put]
    split
    · simp only [lookup_cons]
    · split
      · next h => subst h; simp only [lookup_cons]; split <;> rfl
      · next h =>
        simp only [lookup_cons, ih]
        by_cases hx : x = n
        · simp [hx, Ne.symm h]
        · simp [hx]

end Variables

/-- The variables of one recipient: a `RecipientRecord`. -/
structure Record where
  /-- Names and values, in increasing order of the names. -/
  entries : List (Text × Text) := []
  /-- The names that were given as fields, in increasing order: `custom_fields`. -/
  custom : List Text := []
  /-- Whether the address had no at sign: `used_fallback_address`. -/
  malformed : Bool := false
  deriving DecidableEq, Repr

namespace Record

/-- The value of a variable, letter case aside: `get`. -/
def get? (record : Record) (name : Text) : Option Text := record.entries.lookup name.lower

/-- The value of a variable, and the empty text if the record lacks it: `get_or_empty`. -/
def get (record : Record) (name : Text) : Text := (record.get? name).getD []

/-- Whether the record has a variable, letter case aside: `contains`. -/
def contains (record : Record) (name : Text) : Bool :=
  (record.entries.map Prod.fst).contains name.lower

/-- The address of the recipient: `email`. -/
def email (record : Record) : Text := record.get "email".toList

/-- Sets a variable that follows from the address, the clock or the configuration:
`insert_derived`. -/
def putDerived (record : Record) (name value : Text) : Record :=
  { record with entries := Variables.put name value record.entries }

/-- Sets a variable that is given as a field: `insert_custom`. -/
def putCustom (record : Record) (name value : Text) : Record :=
  { record with
    entries := Variables.put name value record.entries
    custom := Names.insert name record.custom }

/-- The record with some fields set one after the other. -/
def putFields (record : Record) (fields : List (Text × Text)) : Record :=
  fields.foldl (fun r field => r.putCustom field.1 field.2) record

/-- The record made of fields alone: `from_iter`. -/
def ofPairs (pairs : List (Text × Text)) : Record :=
  putFields {} (pairs.map fun pair => (Recipient.fieldKey pair.1, pair.2))

end Record

end FormLetter
