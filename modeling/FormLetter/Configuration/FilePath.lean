import FormLetter.Text.Basic

/-!
# Paths of files

The path of a file is names between slashes. Slashes side by side count as one, one full stop leads
nowhere, and two full stops lead out of a folder that is there.

Results:

* `ne_nil_of_mem_names`: no name of a path is empty or a full stop.
* `place?_names`: names none of which is two full stops lead to the place that they name.
-/

namespace FormLetter.Configuration

/-- Files by their paths. -/
abbrev Files := List (Text × Text)

namespace FilePath

/-- The names in a path. -/
def names (path : Text) : List Text :=
  let parts := path.split '/'
  (parts.1 :: parts.2).filter fun name => !name.isEmpty && name != ['.']

theorem ne_nil_of_mem_names {path name : Text} (h : name ∈ names path) :
    name ≠ [] ∧ name ≠ ['.'] := by
  simpa using (List.mem_filter.mp h).2

/-- The path of names. -/
def ofNames : List Text → Text
  | [] => []
  | name :: rest => Text.join '/' name rest

/-- Whether a path ends like that of a folder. -/
def endsAsFolder (path : Text) : Bool :=
  let parts := path.split '/'
  let last := (parts.1 :: parts.2).getLastD []
  last.isEmpty || last == ['.'] || last == ['.', '.']

/-- The ending of a name after its last full stop. A full stop in front begins no ending. -/
def ending? (name : Text) : Option Text :=
  let ending := (name.reverse.takeWhile (· != '.')).reverse
  if name.length ≤ ending.length + 1 then none else some ending

end FilePath

namespace Files

/-- Whether files stand in a folder or in one inside it. -/
def hasFolder (files : Files) (folder : List Text) : Bool :=
  files.any fun file =>
    let names := FilePath.names file.1
    folder.isPrefixOf names && folder.length < names.length

/-- The place to which names lead from a place. -/
def place? (files : Files) : List Text → List Text → Option (List Text)
  | place, [] => some place
  | place, name :: rest =>
    if name = ['.', '.'] then
      if !place.isEmpty && files.hasFolder place then files.place? place.dropLast rest else none
    else files.place? (place ++ [name]) rest

theorem place?_names {files : Files} {names : List Text} (h : ['.', '.'] ∉ names)
    (place : List Text) : files.place? place names = some (place ++ names) := by
  induction names generalizing place with
  | nil => simp [place?]
  | cons name rest ih =>
    simp only [List.mem_cons, not_or] at h
    simp [place?, Ne.symm h.1, ih h.2]

/-- The text of the file to which names lead. -/
def read? (files : Files) (names : List Text) : Option Text :=
  (files.place? [] names).bind fun place =>
    (files.find? fun file => FilePath.names file.1 == place).map (·.2)

end Files

end FormLetter.Configuration
