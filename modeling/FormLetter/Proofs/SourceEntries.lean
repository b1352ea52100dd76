import FormLetter.Configuration.Path
import FormLetter.Recipient.Record
import Mathlib.Data.List.Basic
import Mathlib.Data.Nat.Notation

/-!
# What the entries of a source set

A source is set in a configuration entry by entry. An entry can be a table for a
whole section, a path to one field, or a path that leads deeper. Whatever it is,
a field that gets scalars has in the end the last one of them, or what it had
before if it gets none.

Specification: `entriesIn?` are the fields that an entry of a source sets in a
section, and `valuesAt` the values that a source sets for a field. They say
nothing about the configuration in which they are set.

Results:

* `get?_put`: an entry that is put is found, and the others stay.
* `get?_overlayEntries`: a table that is set over another one.
* `field?_setPath`: what an entry of a source does to a field.
* `field?_applySource`: what a source does to a field.
-/

namespace FormLetter.Configuration

/-! ## Specification -/

namespace Value

/-- The value of a field in a section. -/
def field? (value : Value) (sectionName field : Text) : Option Value :=
  (value.get? sectionName).bind (·.get? field)

/-- The scalar that a value is, unless it is nothing. -/
def scalar? : Value → Option Scalar
  | scalar _ s => if s = .nothing then none else some s
  | _ => none

end Value

/-- The entries of a table with their names in lower case. -/
def lowered (entries : List (Text × Value)) : List (Text × Value) :=
  entries.map fun entry => (entry.1.lower, entry.2)

/-- The fields that are set in a section by a value at the rest of a path. There
are none to tell if the section becomes anything else than a table. -/
def fieldsAt? : Path → Value → Option (List (Text × Value))
  | [], .table _ entries => some (lowered entries)
  | .entry name :: steps, value => some [(name.lower, Value.setPath value steps .empty)]
  | _, _ => none

/-- The fields that an entry of a source sets in a section. -/
def entriesIn? (sectionName : Text) (entry : Text × Value) : Option (List (Text × Value)) :=
  match Path.ofKey entry.1 with
  | .entry name :: steps =>
    if name.lower = sectionName then fieldsAt? steps entry.2 else some []
  | _ => some []

/-- The values of a field among some fields. -/
def valuesNamed (field : Text) (fields : List (Text × Value)) : List Value :=
  (fields.filter fun f => f.1 = field).map Prod.snd

/-- The values that a source sets for a field, one after the other. -/
def valuesAt (sectionName field : Text) (source : List (Text × Value)) : List Value :=
  source.flatMap fun entry => valuesNamed field ((entriesIn? sectionName entry).getD [])

/-! ## Tables -/

namespace Value

theorem lookup_putEntry (n name : Text) (new : Value) (entries : List (Text × Value)) :
    (putEntry name new entries).lookup n = if n = name then some new else entries.lookup n := by
  induction entries with
  | nil => rw [putEntry, Variables.lookup_cons]
  | cons entry rest ih =>
    obtain ⟨k, v⟩ := entry
    rw [putEntry]
    by_cases hk : k = name
    · subst hk
      rw [if_pos rfl, Variables.lookup_cons, Variables.lookup_cons]
      split_ifs <;> rfl
    · rw [if_neg hk, Variables.lookup_cons, Variables.lookup_cons, ih]
      by_cases hn : n = k
      · rw [if_pos hn, if_pos hn, if_neg (hn ▸ hk)]
      · rw [if_neg hn, if_neg hn]

theorem get?_put (value new : Value) (name n : Text) :
    (value.put name new).get? n = if n = name then some new else value.get? n := by
  cases value with
  | table origin entries => exact lookup_putEntry n name new entries
  | scalar origin s => exact Variables.lookup_cons n name new []
  | list origin items => exact Variables.lookup_cons n name new []

theorem overlay_of_scalar? {new : Value} (h : new.scalar?.isSome) (old : Option Value) :
    overlay old new = new := by
  cases new with
  | scalar origin s => rfl
  | list origin items => exact absurd h Bool.false_ne_true
  | table origin entries => exact absurd h Bool.false_ne_true

end Value

/-! ## Fields -/

theorem valuesNamed_cons (field name : Text) (value : Value) (fields : List (Text × Value)) :
    valuesNamed field ((name, value) :: fields) =
      if name = field then value :: valuesNamed field fields else valuesNamed field fields := by
  rw [valuesNamed, List.filter_cons]
  by_cases h : name = field
  · rw [if_pos h, if_pos (decide_eq_true h)]
    rfl
  · rw [if_neg h, if_neg (by simpa using h)]
    rfl

theorem valuesNamed_append (field : Text) (fields others : List (Text × Value)) :
    valuesNamed field (fields ++ others) =
      valuesNamed field fields ++ valuesNamed field others := by
  rw [valuesNamed, List.filter_append, List.map_append, valuesNamed, valuesNamed]

/-- A scalar that is put counts for the field with its name. -/
theorem get?_put_overlay {field name : Text} {new : Value}
    (h : ∀ v ∈ valuesNamed field [(name, new)], v.scalar?.isSome) (value : Value)
    (old : Option Value) :
    (value.put name (Value.overlay old new)).get? field =
      (valuesNamed field [(name, new)]).getLast?.or (value.get? field) := by
  rw [valuesNamed_cons] at h ⊢
  rw [Value.get?_put]
  by_cases hname : name = field
  · rw [if_pos hname] at h ⊢
    rw [if_pos hname.symm, Value.overlay_of_scalar? (h new List.mem_cons_self)]
    rfl
  · rw [if_neg (Ne.symm hname), if_neg hname]
    rfl

/-- The induction is on the entries, with the table that they are set in left open. -/
theorem get?_overlayEntries {field : Text} {incoming : List (Text × Value)}
    (h : ∀ v ∈ valuesNamed field (lowered incoming), v.scalar?.isSome) (target : Value) :
    (Value.overlayEntries target incoming).get? field =
      (valuesNamed field (lowered incoming)).getLast?.or (target.get? field) := by
  induction incoming generalizing target with
  | nil =>
    rw [Value.overlayEntries]
    rfl
  | cons entry rest ih =>
    obtain ⟨name, new⟩ := entry
    have hsplit : valuesNamed field (lowered ((name, new) :: rest)) =
        valuesNamed field [(name.lower, new)] ++ valuesNamed field (lowered rest) :=
      valuesNamed_append field [(name.lower, new)] (lowered rest)
    rw [hsplit] at h ⊢
    obtain ⟨hnew, hrest⟩ := List.forall_mem_append.mp h
    rw [Value.overlayEntries, ih hrest, get?_put_overlay hnew, List.getLast?_append,
      Option.or_assoc]

/-! ## Paths -/

namespace Value

theorem scalar?_put (value new : Value) (name : Text) : (value.put name new).scalar? = none := by
  cases value <;> rfl

theorem scalar?_putItem (value : Value) (n : Int) (change : Value → Value) :
    (value.putItem n change).scalar? = none := by
  cases value <;> rfl

/-- A path that goes on leaves no scalar where it begins. -/
theorem scalar?_setPath_cons (new : Value) (step : PathStep) (steps : Path) (value : Value) :
    (setPath new (step :: steps) value).scalar? = none := by
  cases step with
  | entry name =>
    cases steps with
    | nil => exact scalar?_put _ _ _
    | cons step steps => exact scalar?_put _ _ _
  | position n => exact scalar?_putItem _ _ _

/-- What becomes of a section in which a value is set at the rest of a path. -/
def setIn (old : Option Value) (new : Value) : Path → Value
  | [] => overlay old new
  | step :: steps => setPath new (step :: steps) (old.getD empty)

theorem setPath_entry (new : Value) (name : Text) (steps : Path) (value : Value) :
    setPath new (.entry name :: steps) value =
      value.put name.lower (setIn (value.get? name.lower) new steps) := by
  cases steps <;> rfl

theorem get?_getD_empty (old : Option Value) (name : Text) :
    (old.getD empty).get? name = old.bind (·.get? name) := by
  cases old <;> rfl

end Value

/-- A field of a section in which a value is set at the rest of a path. -/
theorem get?_setIn {field : Text} {steps : Path} {new : Value} {fields : List (Text × Value)}
    (hfields : fieldsAt? steps new = some fields)
    (h : ∀ v ∈ valuesNamed field fields, v.scalar?.isSome) (old : Option Value) :
    (Value.setIn old new steps).get? field =
      (valuesNamed field fields).getLast?.or (old.bind (·.get? field)) := by
  rw [← Value.get?_getD_empty]
  match steps with
  | [] =>
    cases new with
    | table origin entries =>
      obtain rfl := Option.some.inj hfields
      exact get?_overlayEntries h _
    | scalar origin s => exact absurd hfields (by simp [fieldsAt?])
    | list origin items => exact absurd hfields (by simp [fieldsAt?])
  | .position n :: steps => exact absurd hfields (by simp [fieldsAt?])
  | [.entry name] =>
    obtain rfl := Option.some.inj hfields
    exact get?_put_overlay h _ _
  | .entry name :: step :: steps =>
    obtain rfl := Option.some.inj hfields
    have hname : name.lower ≠ field := by
      intro hname
      rw [valuesNamed_cons, if_pos hname] at h
      have hscalar := h _ List.mem_cons_self
      rw [Value.scalar?_setPath_cons] at hscalar
      exact absurd hscalar Bool.false_ne_true
    rw [valuesNamed_cons, if_neg hname, Value.setIn, Value.setPath_entry, Value.get?_put,
      if_neg (Ne.symm hname)]
    rfl

/-! ## Sources -/

/-- A path begins with a name. -/
theorem Path.exists_of_read {t : Text} {path : Path} (h : read t = .ok path) :
    ∃ name steps, path = .entry name :: steps := by
  rw [read] at h
  by_cases hname : (t.takeWhile isNameChar).isEmpty = true
  · rw [if_pos hname] at h
    cases h
  · rw [if_neg hname] at h
    cases hsteps : readSteps t.length (t.dropWhile isNameChar) with
    | error fault =>
      rw [hsteps] at h
      cases h
    | ok steps =>
      rw [hsteps] at h
      exact ⟨_, steps, (Except.ok.inj h).symm⟩

theorem Path.exists_ofKey (key : Text) : ∃ name steps, ofKey key = .entry name :: steps := by
  rw [ofKey]
  cases h : read key with
  | ok path => exact exists_of_read h
  | error fault => exact ⟨key, [], rfl⟩

/-- What an entry of a source does to a field. -/
theorem field?_setPath {sectionName field : Text} {entry : Text × Value}
    {fields : List (Text × Value)} (hfields : entriesIn? sectionName entry = some fields)
    (h : ∀ v ∈ valuesNamed field fields, v.scalar?.isSome) (target : Value) :
    (Value.setPath entry.2 (Path.ofKey entry.1) target).field? sectionName field =
      (valuesNamed field fields).getLast?.or (target.field? sectionName field) := by
  obtain ⟨name, steps, hkey⟩ := Path.exists_ofKey entry.1
  rw [entriesIn?, hkey] at hfields
  rw [hkey, Value.setPath_entry, Value.field?, Value.get?_put]
  by_cases hname : name.lower = sectionName
  · subst hname
    rw [if_pos rfl, Option.bind_some, get?_setIn (by simpa using hfields) h]
    rfl
  · rw [if_neg (Ne.symm hname)]
    have hnil : fields = [] := by simpa [hname, eq_comm] using hfields
    rw [hnil]
    rfl

/-- What a source does to a field. -/
theorem field?_applySource {sectionName field : Text} {source : List (Text × Value)}
    (htables : ∀ entry ∈ source, (entriesIn? sectionName entry).isSome)
    (hscalars : ∀ v ∈ valuesAt sectionName field source, v.scalar?.isSome) (target : Value) :
    (target.applySource source).field? sectionName field =
      (valuesAt sectionName field source).getLast?.or (target.field? sectionName field) := by
  induction source generalizing target with
  | nil => rfl
  | cons entry source ih =>
    obtain ⟨hentry, hsource⟩ := List.forall_mem_cons.mp htables
    obtain ⟨fields, hfields⟩ := Option.isSome_iff_exists.mp hentry
    have hsplit : valuesAt sectionName field (entry :: source) =
        valuesNamed field fields ++ valuesAt sectionName field source := by
      rw [valuesAt, List.flatMap_cons, hfields, Option.getD_some, valuesAt]
    have happly : target.applySource (entry :: source) =
        (Value.setPath entry.2 (Path.ofKey entry.1) target).applySource source := rfl
    rw [hsplit] at hscalars ⊢
    obtain ⟨hhead, htail⟩ := List.forall_mem_append.mp hscalars
    rw [happly, ih hsource htail, field?_setPath hfields hhead, List.getLast?_append,
      Option.or_assoc]

end FormLetter.Configuration
