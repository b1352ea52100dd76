import FormLetter.Proofs.JsonValues
import FormLetter.Proofs.LayeredSettings
import FormLetter.Proofs.TomlLexemes
import FormLetter.Proofs.Variables

/-!
# Written configuration files

A configuration file in JSON sets what the members of its object say. One in TOML is read back from
its sections: every header opens a table of its own, and every line below it assigns a truth value,
an integer or a text to a key. So the settings of such a file are those that its sections assign.

Specification: `Toml.Section` is a section to be written, `Toml.Section.IsSound` says what it can
hold, and `Toml.fileText` is the file. `Toml.assigned?` is what the sections assign to a setting.

* `JsonFile.read?_print`: the entries of a written object; of members with one name the last counts.
* `Toml.read?_fileText`: the entries of a written file.
* `Toml.settings_of_read?_fileText`: the settings of a written file.
-/

namespace FormLetter.Configuration

/-! ## Files in JSON -/

namespace JsonFile

/-- Of the members with a name the last one counts, and then an entry that was
there before. -/
theorem lookup_entriesOf (origin : Text) (entries : List (Text × Value))
    (members : List (Text × Json)) (name : Text) :
    (entriesOf origin entries members).lookup name =
      ((Json.member? members name).map (valueOf origin)).or (entries.lookup name) := by
  induction members generalizing entries with
  | nil => rfl
  | cons m members ih =>
    obtain ⟨n, value⟩ := m
    rw [entriesOf, ih, Value.lookup_putEntry, Json.member?, Json.member?, List.reverse_cons,
      List.lookup_append, Variables.lookup_cons, List.lookup_nil]
    cases members.reverse.lookup name with
    | none => split_ifs <;> rfl
    | some later => rfl

/-- **Reading a written object.** -/
theorem read?_print {members : List (Text × Json)} (h : (Json.object members).Fits Json.maxDepth)
    (origin : Text) :
    ∃ entries, read? origin (Json.print (.object members)) = some entries ∧
      ∀ name, entries.lookup name = (Json.member? members name).map (valueOf origin) := by
  have hread := Json.read?_print h (List.forall_mem_nil _) (List.forall_mem_nil _)
  rw [List.nil_append, List.append_nil] at hread
  refine ⟨entriesOf origin [] members, by rw [read?, hread], fun name => ?_⟩
  rw [lookup_entriesOf, List.lookup_nil, Option.or_none]

end JsonFile

/-! ## Files in TOML -/

namespace Toml

/-! ## Specification -/

/-- A section of a file: its name, and the scalars that it assigns to keys. -/
structure Section where
  name : Text
  assignments : List (Text × Scalar)

/-- The section can be written: its keys are bare and distinct. -/
structure Section.IsSound (s : Section) : Prop where
  name : IsBareKey s.name
  keys : ∀ a ∈ s.assignments, IsBareKey a.1
  nodup : (s.assignments.map Prod.fst).Nodup
  scalars : ∀ a ∈ s.assignments, IsWritable a.2

/-- A line that opens a table. -/
def headerText (name : Text) : Text := '[' :: name ++ [']', '\n']

/-- A line that assigns a scalar to a key. -/
def assignmentText (assignment : Text × Scalar) : Text :=
  assignment.1 ++ [' ', '=', ' '] ++ scalarText assignment.2 ++ ['\n']

/-- The lines of a section. -/
def Section.text (s : Section) : Text := headerText s.name ++ s.assignments.flatMap assignmentText

/-- The lines of a file. -/
def fileText (sections : List Section) : Text := sections.flatMap Section.text

/-- The entry that a section makes. -/
def Section.entry (origin : Text) (s : Section) : Text × Value :=
  (s.name, .table (some origin) (s.assignments.map fun a => (a.1, .scalar (some origin) a.2)))

/-! ## Tables -/

theorem lookup_append_single (entries : Entries) (name : Text) (node : Node)
    (h : entries.lookup name = none) : (entries ++ [(name, node)]).lookup name = some node := by
  simp [List.lookup_append, h]

theorem Entries.put_append_single (entries : Entries) (name : Text) (old new : Node)
    (h : entries.lookup name = none) :
    Entries.put name new (entries ++ [(name, old)]) = entries ++ [(name, new)] := by
  induction entries with
  | nil => simp [Entries.put]
  | cons e entries ih =>
    rw [List.lookup_cons] at h
    split at h
    · cases h
    · have hne : e.1 ≠ name := by
        rintro rfl
        simp_all
      simp [Entries.put, hne, ih h]

/-! ## Lines of a file -/

/-- A header is read. -/
theorem line?_headerText {name : Text} (h : IsBareKey name) (p : Progress) (rest : Text)
    (hnew : p.entries.lookup name = none) :
    line? p (headerText name ++ rest) =
      some (⟨p.entries ++ [(name, .table .header [])], [name]⟩, rest) := by
  have hkey : key? (name ++ ']' :: '\n' :: rest) = some ([name], ']' :: '\n' :: rest) :=
    h.key? (by rintro c ⟨⟩; rfl) (by simp [skipGap, isGap])
  have htext : headerText name ++ rest = '[' :: (name ++ ']' :: '\n' :: rest) := by
    simp [headerText]
  rw [htext, line?]
  · simp only [hkey, Option.bind_eq_bind, Option.bind_some]
    simp [expect?, lineEnd?_newline, Entries.alongHeader, Entries.openTable, hnew]
  · exact h.ne_cons rfl _

/-- An assignment is read. -/
theorem line?_assignmentText {key name : Text} {s : Scalar} (hkey : IsBareKey key)
    (hs : IsWritable s) (entries : Entries) (done : List (Text × Node)) (rest : Text)
    (hname : entries.lookup name = none) (hnew : done.lookup key = none) :
    line? ⟨entries ++ [(name, .table .header done)], [name]⟩ (assignmentText (key, s) ++ rest) =
      some (⟨entries ++ [(name, .table .header (done ++ [(key, .atom (.scalar s))]))], [name]⟩,
        rest) := by
  have hread : key? (key ++ ' ' :: '=' :: ' ' :: (scalarText s ++ '\n' :: rest)) =
      some ([key], '=' :: ' ' :: (scalarText s ++ '\n' :: rest)) :=
    hkey.key? (by rintro c ⟨⟩; rfl) (by simp [skipGap, isGap])
  have hgap : skipGap (' ' :: (scalarText s ++ '\n' :: rest)) = scalarText s ++ '\n' :: rest :=
    skipGap_scalarText hs _
  have hvalue := value?_scalarText hs (endsWord_newline rest)
  have htext : assignmentText (key, s) ++ rest =
      key ++ ' ' :: '=' :: ' ' :: (scalarText s ++ '\n' :: rest) := by
    simp [assignmentText]
  have hlookup := lookup_append_single entries name (.table .header done) hname
  have hput := Entries.put_append_single entries name (.table .header done)
    (.table .header (done ++ [(key, .atom (.scalar s))])) hname
  rw [htext, line?]
  · simp only [hread, expect?, if_true, Option.bind_eq_bind, Option.bind_some, hgap, hvalue,
      lineEnd?_newline]
    simp [Entries.alongHeader, hlookup, Node.throughHeader?, Entries.assign, Entries.add?, hnew,
      hput]
  · exact fun _ h => hkey.ne_cons (c := '[') rfl _ _ h
  · exact fun _ h => hkey.ne_cons (c := '[') rfl _ _ h

/-! ## Files -/

/-- The lines of a text lead from one state to another. -/
def Leads (p : Progress) (t : Text) (p' : Progress) : Prop :=
  ∃ k ≤ t.length, ∀ fuel rest, lines? (fuel + k) p (t ++ rest) = lines? fuel p' rest

theorem Leads.nil (p : Progress) : Leads p [] p := ⟨0, by simp, fun _ _ => rfl⟩

theorem Leads.trans {p p' p'' : Progress} {s t : Text} (h : Leads p s p') (h' : Leads p' t p'') :
    Leads p (s ++ t) p'' := by
  obtain ⟨j, hj, hs⟩ := h
  obtain ⟨k, hk, ht⟩ := h'
  refine ⟨k + j, by simp; omega, fun fuel rest => ?_⟩
  rw [← Nat.add_assoc, List.append_assoc, hs, ht]

theorem skipLines_eq_self {c : Char} (hgap : isGap c = false)
    (hc : c ≠ '#' ∧ c ≠ '\n' ∧ c ≠ '\r') (fuel : ℕ) (t : Text) :
    skipLines fuel (c :: t) = c :: t := by
  have hskip : skipGap (c :: t) = c :: t := List.dropWhile_cons_of_neg (by simp [hgap])
  have hcomment : skipComment (c :: t) = c :: t := by
    unfold skipComment
    split
    · exact absurd (List.cons.inj ‹_›).1 hc.1
    · rfl
  have hnewline : newline? (c :: t) = none := by
    unfold newline?
    split
    · exact absurd (List.cons.inj ‹_›).1 hc.2.1
    · exact absurd (List.cons.inj ‹_›).1 hc.2.2
    · rfl
  cases fuel with
  | zero => rfl
  | succ fuel => simp [skipLines, hskip, hcomment, hnewline]

/-- One line. -/
theorem Leads.line {p p' : Progress} {c : Char} {t : Text} (hgap : isGap c = false)
    (hc : c ≠ '#' ∧ c ≠ '\n' ∧ c ≠ '\r')
    (h : ∀ rest, line? p (c :: t ++ rest) = some (p', rest)) : Leads p (c :: t) p' := by
  refine ⟨1, by simp, fun fuel rest => ?_⟩
  have hline := h rest
  rw [List.cons_append] at hline ⊢
  rw [lines?, skipLines_eq_self hgap hc]
  simp [hline]

theorem leads_headerText {p : Progress} {name : Text} (h : IsBareKey name)
    (hnew : p.entries.lookup name = none) :
    Leads p (headerText name) ⟨p.entries ++ [(name, .table .header [])], [name]⟩ :=
  .line (by decide) (by decide) fun rest => line?_headerText h p rest hnew

/-- The nodes of the assignments of a section. -/
def nodes (assignments : List (Text × Scalar)) : Entries :=
  assignments.map fun a => (a.1, .atom (.scalar a.2))

theorem map_fst_nodes (assignments : List (Text × Scalar)) :
    (nodes assignments).map Prod.fst = assignments.map Prod.fst := by
  simp [nodes]

theorem IsBareKey.exists_assignmentText_eq_cons {key : Text} (h : IsBareKey key) (s : Scalar) :
    ∃ c t, assignmentText (key, s) = c :: t ∧ isKeyChar c = true := by
  obtain ⟨c, cs, rfl⟩ := List.exists_cons_of_ne_nil h.1
  exact ⟨c, _, rfl, h.2 c (by simp)⟩

/-- The lines of assignments add them to the table that is open. -/
theorem leads_assignments {name : Text} {entries : Entries} (hname : entries.lookup name = none)
    {assignments : List (Text × Scalar)} (done : List (Text × Scalar))
    (hkeys : ∀ a ∈ assignments, IsBareKey a.1) (hscalars : ∀ a ∈ assignments, IsWritable a.2)
    (hnodup : ((done ++ assignments).map Prod.fst).Nodup) :
    Leads ⟨entries ++ [(name, .table .header (nodes done))], [name]⟩
      (assignments.flatMap assignmentText)
      ⟨entries ++ [(name, .table .header (nodes (done ++ assignments)))], [name]⟩ := by
  induction assignments generalizing done with
  | nil =>
    rw [List.append_nil]
    exact .nil _
  | cons a assignments ih =>
    rw [List.forall_mem_cons] at hkeys hscalars
    have hnew : (nodes done).lookup a.1 = none := by
      rw [List.map_append, List.map_cons] at hnodup
      refine Variables.lookup_eq_none_iff.mpr fun hmem => ?_
      rw [map_fst_nodes] at hmem
      exact (List.nodup_append.mp hnodup).2.2 _ hmem _ (by simp) rfl
    have hline : Leads ⟨entries ++ [(name, .table .header (nodes done))], [name]⟩
        (assignmentText a) ⟨entries ++ [(name, .table .header (nodes (done ++ [a])))], [name]⟩ := by
      obtain ⟨c, t, htext, hc⟩ := hkeys.1.exists_assignmentText_eq_cons a.2
      have hread (rest : Text) :=
        line?_assignmentText hkeys.1 hscalars.1 entries (nodes done) rest hname hnew
      rw [htext] at hread ⊢
      refine .line (isGap_of_isKeyChar hc) ?_ fun rest => ?_
      · refine ⟨?_, ?_, ?_⟩ <;> rintro rfl <;> cases hc
      · simpa [nodes] using hread rest
    have hrest := ih (done ++ [a]) hkeys.2 hscalars.2 (by simpa using hnodup)
    simpa using hline.trans hrest

/-- The lines of a section add its table. -/
theorem leads_section {p : Progress} {s : Section} (h : s.IsSound)
    (hnew : p.entries.lookup s.name = none) :
    Leads p s.text ⟨p.entries ++ [(s.name, .table .header (nodes s.assignments))], [s.name]⟩ :=
  (leads_headerText h.name hnew).trans
    (leads_assignments hnew [] h.keys h.scalars h.nodup)

/-- The lines of a file add a table for every section. -/
theorem leads_fileText {sections : List Section} (h : ∀ s ∈ sections, s.IsSound) (p : Progress)
    (hnew : (p.entries.map Prod.fst ++ sections.map Section.name).Nodup) :
    ∃ path, Leads p (fileText sections) ⟨p.entries ++ sections.map fun s =>
      (s.name, .table .header (nodes s.assignments)), path⟩ := by
  induction sections generalizing p with
  | nil => exact ⟨p.path, by simpa [fileText] using Leads.nil p⟩
  | cons s sections ih =>
    rw [List.forall_mem_cons] at h
    have hfirst : p.entries.lookup s.name = none := by
      refine Variables.lookup_eq_none_iff.mpr fun hmem => ?_
      exact (List.nodup_append.mp hnew).2.2 _ hmem _ (by simp) rfl
    obtain ⟨path, hrest⟩ := ih h.2 ⟨p.entries ++ [(s.name, .table .header (nodes s.assignments))],
      [s.name]⟩ (by simpa using hnew)
    exact ⟨path, by simpa [fileText] using (leads_section h.1 hfirst).trans hrest⟩

/-! ## Values -/

theorem IsBareKey.ne_momentName {key : Text} (h : IsBareKey key) : key ≠ momentName := by
  rintro rfl
  exact absurd (h.2 '$' (by decide)) (by decide)

/-- A table with bare keys is no moment. -/
theorem tableValue?_of_isBareKey {origin : Text} {entries : Entries}
    (h : ∀ e ∈ entries, IsBareKey e.1) (values : Option (List (Text × Value))) :
    tableValue? origin entries values = values.map (.table (some origin)) := by
  cases entries with
  | nil => rfl
  | cons e entries => simp [tableValue?, (h e (by simp)).ne_momentName]

theorem entryValues?_nodes (origin : Text) (assignments : List (Text × Scalar)) :
    entryValues? origin (nodes assignments) =
      some (assignments.map fun a => (a.1, .scalar (some origin) a.2)) := by
  induction assignments with
  | nil => rfl
  | cons a assignments ih =>
    change (do some ((a.1, Value.scalar (some origin) a.2) ::
      (← entryValues? origin (nodes assignments)))) = _
    rw [ih]
    rfl

theorem entryValues?_sections (origin : Text) {sections : List Section}
    (h : ∀ s ∈ sections, s.IsSound) :
    entryValues? origin (sections.map fun s => (s.name, .table .header (nodes s.assignments))) =
      some (sections.map (Section.entry origin)) := by
  induction sections with
  | nil => rfl
  | cons s sections ih =>
    rw [List.forall_mem_cons] at h
    have hkeys : ∀ e ∈ nodes s.assignments, IsBareKey e.1 := List.forall_mem_map.mpr h.1.keys
    simp [entryValues?, Node.value?, tableValue?_of_isBareKey hkeys, entryValues?_nodes, ih h.2,
      Section.entry]

/-- **Reading a written file.** Its entries are the tables of its sections. -/
theorem read?_fileText {sections : List Section} (h : ∀ s ∈ sections, s.IsSound)
    (hnames : (sections.map Section.name).Nodup) (path : Text) :
    read? path (fileText sections) = some (sections.map (Section.entry path)) := by
  obtain ⟨last, k, hk, hrun⟩ := leads_fileText h {} (by simpa using hnames)
  have hmark : (fileText sections).withoutMark = fileText sections := by
    cases sections <;> rfl
  have hlines : lines? ((fileText sections).length + 1) {} (fileText sections) =
      some ⟨sections.map fun s => (s.name, .table .header (nodes s.assignments)), last⟩ := by
    obtain ⟨fuel, hfuel⟩ : ∃ n, (fileText sections).length + 1 = n + 1 + k :=
      ⟨(fileText sections).length - k, by omega⟩
    have hend := hrun (fuel + 1) []
    rw [List.append_nil] at hend
    rw [hfuel, hend]
    rfl
  have hkeys : ∀ e ∈ sections.map fun s => (s.name, Node.table .header (nodes s.assignments)),
      IsBareKey e.1 := List.forall_mem_map.mpr fun s hs => (h s hs).name
  rw [read?, hmark, hlines]
  simp [Node.value?, tableValue?_of_isBareKey hkeys, entryValues?_sections path h]

example : fileText [⟨"server".toList, [("host".toList, .text "a\"b".toList),
    ("port".toList, .integer 8081)]⟩] =
      "[server]\nhost = \"a\\\"b\"\nport = 8081\n".toList := by
  decide

/-! ## Settings in a file -/

/-- The names of a section are in lower case. -/
structure Section.IsLower (s : Section) : Prop where
  name : s.name.lower = s.name
  keys : ∀ a ∈ s.assignments, a.1.lower = a.1

/-- The scalar that the sections of a file assign to a setting. -/
def assigned? (sections : List Section) (key : Key) : Option Scalar :=
  (sections.find? fun s => s.name = key.sectionName).bind fun s => s.assignments.lookup key.field

/-- A bare key is a path of one step. -/
theorem IsBareKey.ofKey_eq {key : Text} (h : IsBareKey key) : Path.ofKey key = [.entry key] := by
  have hname : ∀ c ∈ key, Path.isNameChar c = true := by
    intro c hc
    have := h.2 c hc
    simp only [isKeyChar, Bool.or_eq_true] at this
    simp only [Path.isNameChar, Bool.or_eq_true]
    tauto
  have hend : ∀ c ∈ ([] : Text).head?, Path.isNameChar c = false := by simp
  have hwhole : key.takeWhile Path.isNameChar = key ∧ key.dropWhile Path.isNameChar = [] := by
    simpa using Text.takeWhile_dropWhile_append hname hend
  have hread : Path.read key = .ok [.entry key] := by
    rw [Path.read, hwhole.1, hwhole.2]
    simp [h.1, Path.readSteps, Except.map]
  rw [Path.ofKey, hread]

/-- Assignments to distinct keys set a field at most once. -/
theorem valuesNamed_assignments (origin field : Text) {assignments : List (Text × Scalar)}
    (h : (assignments.map Prod.fst).Nodup) :
    valuesNamed field (assignments.map fun a => (a.1, .scalar (some origin) a.2)) =
      ((assignments.lookup field).map (Value.scalar (some origin))).toList := by
  have hvalues := congrArg (List.map (Value.scalar (some origin)))
    (Variables.map_snd_filter h field)
  rw [List.map_map] at hvalues
  rw [valuesNamed, List.filter_map, List.map_map, Option.toList_map, ← hvalues]
  simp only [Function.comp_def, beq_eq_decide]

/-- A section sets the fields of its own name. -/
theorem Section.entriesIn?_entry {s : Section} (h : s.IsSound) (hlower : s.IsLower)
    (origin sectionName : Text) :
    entriesIn? sectionName (s.entry origin) =
      some (if s.name = sectionName then
        s.assignments.map fun a => (a.1, .scalar (some origin) a.2) else []) := by
  have hfields : s.assignments.map (fun a => (a.1.lower, Value.scalar (some origin) a.2)) =
      s.assignments.map fun a => (a.1, .scalar (some origin) a.2) :=
    List.map_congr_left fun a ha => by rw [hlower.keys a ha]
  rw [entriesIn?, Section.entry, h.name.ofKey_eq]
  simp only [hlower.name, fieldsAt?, lowered, List.map_map, Function.comp_def, hfields]
  split_ifs <;> rfl

theorem assigned?_cons (s : Section) (sections : List Section) (key : Key) :
    assigned? (s :: sections) key =
      if s.name = key.sectionName then s.assignments.lookup key.field
      else assigned? sections key := by
  rw [assigned?, List.find?_cons]
  by_cases h : s.name = key.sectionName <;> simp [h, assigned?]

theorem assigned?_eq_none {sections : List Section} {key : Key}
    (h : key.sectionName ∉ sections.map Section.name) : assigned? sections key = none := by
  rw [assigned?, List.find?_eq_none.mpr, Option.bind_none]
  intro s hs heq
  exact h (of_decide_eq_true heq ▸ List.mem_map_of_mem hs)

/-- A section of its own name sets each setting at most once. -/
theorem settingsAt_sections (origin : Text) (key : Key) {sections : List Section}
    (h : ∀ s ∈ sections, s.IsSound) (hlower : ∀ s ∈ sections, s.IsLower)
    (hnames : (sections.map Section.name).Nodup) :
    settingsAt key (sections.map (Section.entry origin)) =
      ((assigned? sections key).map (Value.scalar (some origin))).toList := by
  induction sections with
  | nil => rfl
  | cons s sections ih =>
    rw [List.forall_mem_cons] at h hlower
    rw [List.map_cons, List.nodup_cons] at hnames
    have hrest := ih h.2 hlower.2 hnames.2
    rw [settingsAt, valuesAt] at hrest
    rw [settingsAt, valuesAt, List.map_cons, List.flatMap_cons, hrest,
      Section.entriesIn?_entry h.1 hlower.1, Option.getD_some, assigned?_cons]
    split_ifs with hname
    · rw [hname] at hnames
      rw [valuesNamed_assignments origin key.field h.1.nodup, assigned?_eq_none hnames.1]
      simp
    · rfl

theorem IsWritable.ne_nothing {s : Scalar} (h : IsWritable s) : s ≠ .nothing := by
  rintro rfl
  exact h

theorem isWritable_of_assigned? {sections : List Section} (h : ∀ s ∈ sections, s.IsSound)
    {key : Key} {s : Scalar} (hs : assigned? sections key = some s) : IsWritable s := by
  obtain ⟨t, ht, hlookup⟩ := Option.bind_eq_some_iff.mp hs
  exact (h t (List.mem_of_find?_eq_some ht)).scalars _ (Variables.mem_of_lookup_eq_some hlookup)

/-- **The settings of a written file.** Its sections set what they assign, and each
setting once. -/
theorem settings_of_read?_fileText {sections : List Section} (h : ∀ s ∈ sections, s.IsSound)
    (hlower : ∀ s ∈ sections, s.IsLower) (hnames : (sections.map Section.name).Nodup)
    (path : Text) :
    ∃ source, read? path (fileText sections) = some source ∧ IsOrderly source ∧
      ∀ key, setting? key source = assigned? sections key := by
  refine ⟨_, read?_fileText h hnames path, IsOrderly.of_settingsAt ?_
    (fun key => settingsAt_sections path key h hlower hnames)
    fun key s hs => (isWritable_of_assigned? h hs).ne_nothing⟩
  intro key entry hentry
  obtain ⟨s, hs, rfl⟩ := List.mem_map.mp hentry
  rw [Section.entriesIn?_entry (h s hs) (hlower s hs)]
  rfl

end Toml

end FormLetter.Configuration
