import FormLetter.Proofs.LayeredSettings
import FormLetter.Proofs.NameCase
import FormLetter.Proofs.RecipientLines
import FormLetter.Proofs.Trimming
import FormLetter.Proofs.Variables

/-!
# Written environment files

An environment file can give any text to a variable, between double quotes and with quotes,
backslashes, dollar signs and line feeds escaped. The variables are added one after the other, so
that those that are there already stay as they are, and the first of several with one name counts.
Variables with the marker of the program set settings.

Specification: `DotEnv.fileText` is a file that is written for some variables, `DotEnv.IsName` says
which names they can have, and `Key.variable` is the variable of a setting.

* `DotEnv.readText_quotedText`: a text is read from between its quotes.
* `DotEnv.statement?_lineText`: a line says what has been written on it.
* `DotEnv.load_fileText`, `DotEnv.get?_load_fileText`: the variables of a written file.
* `Environment.settings_of_variables`: the settings that variables set.
-/

namespace FormLetter.Configuration

theorem Environment.get?_addNew (env : Environment) (name text n : Text) :
    (env.addNew name text).get? n = (env.get? n).or (if n = name then some text else none) := by
  rw [addNew]
  by_cases hthere : (env.get? name).isSome = true
  · rw [if_pos hthere]
    obtain ⟨old, hold⟩ := Option.isSome_iff_exists.mp hthere
    by_cases hn : n = name
    · rw [hn, hold, Option.some_or]
    · rw [if_neg hn, Option.or_none]
  · rw [if_neg hthere, get?, List.lookup_append, Variables.lookup_cons]
    rfl

namespace DotEnv

/-! ## Specification -/

/-- A character between double quotes. -/
def quotedChar (c : Char) : Text :=
  if c = '\n' then ['\\', 'n']
  else if c = '\\' ∨ c = '"' ∨ c = '$' then ['\\', c]
  else [c]

/-- A text between double quotes. -/
def quotedText (t : Text) : Text := '"' :: t.flatMap quotedChar ++ ['"']

/-- The line of a variable. -/
def lineText (v : Text × Text) : Text := v.1 ++ '=' :: quotedText v.2

/-- The lines of a file. -/
def fileText (vs : List (Text × Text)) : Text :=
  vs.flatMap fun v => lineText v ++ ['\n']

/-- A name that a file can give a text. -/
structure IsName (name : Text) : Prop where
  first : ∃ c cs, name = c :: cs ∧ (c.isAlpha || c == '_') = true
  chars : ∀ c ∈ name, isNameChar c = true

/-! ## Texts -/

/-- A character between double quotes is read. -/
theorem readText_quotedChar (env : Environment) (before : Text) (c : Char) (rest : Text) :
    readText env true before .plain (quotedChar c ++ rest) =
      readText env true (c :: before) .plain rest := by
  unfold quotedChar
  split_ifs with hfeed hescape
  · subst hfeed
    rfl
  · rcases hescape with rfl | rfl | rfl <;> rfl
  · rw [not_or, not_or] at hescape
    simp [readText, hescape]

theorem readText_flatMap_quotedChar (env : Environment) (before t rest : Text) :
    readText env true before .plain (t.flatMap quotedChar ++ '"' :: rest) =
      readText env false (t.reverse ++ before) .plain rest := by
  induction t generalizing before with
  | nil => rfl
  | cons c t ih =>
    rw [List.flatMap_cons, List.append_assoc, readText_quotedChar, ih]
    simp

/-- A text is read from between its quotes. -/
theorem readText_quotedText (env : Environment) (t : Text) :
    readText env false [] .plain (quotedText t) = some t := by
  have hopen : readText env false [] .plain (quotedText t) =
      readText env true [] .plain (t.flatMap quotedChar ++ ['"']) := rfl
  rw [hopen, readText_flatMap_quotedChar, List.append_nil]
  simp [readText]

/-! ## Lines -/

/-- The names of variables have the characters that names of placeholders have. -/
theorem isNameChar_eq : isNameChar = FormLetter.isNameChar := rfl

theorem isBlank_of_isNameChar {c : Char} (h : isNameChar c = true) : Text.isBlank c = false := by
  rw [isNameChar_eq, isNameChar_iff] at h
  simp only [Text.isBlank, Bool.or_eq_false_iff, Bool.and_eq_false_iff, decide_eq_false_iff_not,
    beq_eq_false_iff_ne]
  omega

/-- What begins with a name begins with none of the other characters. -/
theorem IsName.ne_cons {name : Text} (h : IsName name) {c : Char} (hc : isNameChar c = false)
    (rest t : Text) : name ++ rest ≠ c :: t := by
  obtain ⟨d, ds, rfl, -⟩ := h.first
  intro heq
  have hd := h.chars d (by simp)
  rw [(List.cons.inj heq).1, hc] at hd
  cases hd

theorem IsName.trimStart_append {name : Text} (h : IsName name) (rest : Text) :
    Text.trimStart (name ++ rest) = name ++ rest := by
  obtain ⟨c, cs, rfl, -⟩ := h.first
  have hc := isBlank_of_isNameChar (h.chars c (by simp))
  exact List.dropWhile_cons_of_neg (by simp [hc])

theorem isTrimmed_lineText {v : Text × Text} (h : IsName v.1) : (lineText v).IsTrimmed where
  head c hc := by
    obtain ⟨d, ds, hname, -⟩ := h.first
    have hd := h.chars d (by simp [hname])
    rw [lineText, hname] at hc
    obtain rfl : d = c := by simpa using hc
    exact isBlank_of_isNameChar hd
  last c hc := by
    have hlast : (lineText v).getLast? = some '"' := by
      rw [lineText, quotedText, ← List.cons_append, ← List.append_assoc, List.getLast?_concat]
    obtain rfl : '"' = c := by simpa [hlast] using hc
    decide

theorem nameAndRest?_lineText {v : Text × Text} (h : IsName v.1) :
    nameAndRest? (lineText v) = some (v.1, quotedText v.2) := by
  have hsplit := Text.takeWhile_dropWhile_append h.chars
    (show ∀ c ∈ ('=' :: quotedText v.2).head?, isNameChar c = false by rintro c ⟨⟩; decide)
  have hname : name? (lineText v) = some (v.1, '=' :: quotedText v.2) := by
    obtain ⟨c, cs, hcs, hfirst⟩ := h.first
    rw [lineText, name?.eq_def]
    rw [hcs] at hsplit ⊢
    rw [List.cons_append] at hsplit ⊢
    simp only [if_pos hfirst, hsplit.1, hsplit.2]
    rfl
  rw [nameAndRest?, hname]
  rfl

/-- A line says what has been written on it. -/
theorem statement?_lineText (env : Environment) {v : Text × Text} (h : IsName v.1) :
    statement? env (lineText v) = some (.assign v.1 v.2) := by
  obtain ⟨c, cs, hcs, -⟩ := h.first
  rw [statement?, (isTrimmed_lineText h).trim_eq]
  split
  · rename_i heq
    simp [lineText] at heq
  · rename_i heq
    exact absurd heq (h.ne_cons rfl _ _)
  · rw [nameAndRest?_lineText h]
    change (readText env false [] .plain (quotedText v.2)).map (Statement.assign v.1 ·) = _
    rw [readText_quotedText]
    rfl

/-! ## The ends of lines -/

/-- Some text leads from one place in a line to another, and there is no comment
in it. -/
def Leads (place : LinePlace) (t : Text) (place' : LinePlace) : Prop :=
  ∀ rest, beforeComment place (t ++ rest) =
    (t ++ (beforeComment place' rest).1, (beforeComment place' rest).2)

theorem Leads.append {place place' place'' : LinePlace} {s t : Text} (h : Leads place s place')
    (h' : Leads place' t place'') : Leads place (s ++ t) place'' := by
  intro rest
  rw [List.append_assoc, h, h', List.append_assoc]

theorem Leads.char {place place' : LinePlace} {c : Char} (h : place.next? c = some place') :
    Leads place [c] place' := by
  intro rest
  simp [beforeComment, h]

/-- Text that nowhere leads to another place. -/
theorem Leads.flatMap {place : LinePlace} {t : Text} {f : Char → Text}
    (h : ∀ c ∈ t, Leads place (f c) place) : Leads place (t.flatMap f) place := by
  induction t with
  | nil => exact fun rest => rfl
  | cons c t ih =>
    rw [List.forall_mem_cons] at h
    exact h.1.append (ih h.2)

theorem next?_of_isNameChar {c : Char} (h : isNameChar c = true) :
    LinePlace.outside.next? c = some .outside := by
  have hblank := isBlank_of_isNameChar h
  have hbackslash : c ≠ '\\' := by rintro rfl; cases h
  have hquote : c ≠ '"' := by rintro rfl; cases h
  have happostrophe : c ≠ '\'' := by rintro rfl; cases h
  simp [LinePlace.next?, hblank, hbackslash, hquote, happostrophe]

theorem leads_quotedChar (c : Char) : Leads .inWeak (quotedChar c) .inWeak := by
  unfold quotedChar
  split_ifs with hfeed hescape
  · exact (Leads.char (c := '\\') rfl).append (Leads.char rfl)
  · exact (Leads.char (c := '\\') rfl).append (Leads.char rfl)
  · rw [not_or, not_or] at hescape
    exact Leads.char (by simp [LinePlace.next?, hescape])

theorem leads_lineText {v : Text × Text} (h : IsName v.1) :
    Leads .outside (lineText v ++ ['\n']) .outside := by
  have hname : Leads .outside v.1 .outside := by
    have := Leads.flatMap (f := fun c => [c]) fun c hc =>
      Leads.char (next?_of_isNameChar (h.chars c hc))
    simpa using this
  have htext : Leads .inWeak (v.2.flatMap quotedChar) .inWeak :=
    Leads.flatMap fun c _ => leads_quotedChar c
  have hopen : Leads .outside ['=', '"'] .inWeak := (Leads.char (c := '=') rfl).append (.char rfl)
  have hclose : Leads .inWeak ['"', '\n'] .outside := (Leads.char (c := '"') rfl).append (.char rfl)
  simpa [lineText, quotedText] using ((hname.append hopen).append htext).append hclose

theorem withoutLineEnd_lineText (v : Text × Text) :
    withoutLineEnd (lineText v ++ ['\n']) = lineText v := by
  simp [withoutLineEnd, lineText, quotedText]

/-- A written line ends with its line feed. -/
theorem logicalLines_lineText {v : Text × Text} (h : IsName v.1) (lines : List Text) :
    logicalLines [] .outside ((lineText v ++ ['\n']) :: lines) =
      some (lineText v) :: logicalLines [] .outside lines := by
  have hplace : beforeComment .outside (lineText v ++ ['\n']) =
      (lineText v ++ ['\n'], some .outside) := by
    simpa [beforeComment] using leads_lineText h []
  have hstart : Text.trimStart (lineText v ++ ['\n']) = lineText v ++ ['\n'] := by
    simpa [lineText] using h.trimStart_append ('=' :: (quotedText v.2 ++ ['\n']))
  rw [logicalLines, List.nil_append]
  simp only [hstart, hplace, withoutLineEnd_lineText]
  split
  · rename_i heq
    rw [lineText, List.append_assoc] at heq
    exact absurd heq (h.ne_cons rfl _ _)
  · rfl

theorem lineFeed_notMem_quotedChar (c : Char) : '\n' ∉ quotedChar c := by
  unfold quotedChar
  split_ifs with hfeed hescape
  · decide
  · rcases hescape with rfl | rfl | rfl <;> decide
  · simpa using Ne.symm hfeed

theorem lineFeed_notMem_lineText {v : Text × Text} (h : IsName v.1) : '\n' ∉ lineText v := by
  have hname : '\n' ∉ v.1 := fun hmem => by cases h.chars _ hmem
  simp [lineText, quotedText, hname, lineFeed_notMem_quotedChar]

/-- A line feed ends a line of the file. -/
theorem physicalLines_append_cons {line : Text} (h : '\n' ∉ line) (t : Text) :
    physicalLines (line ++ '\n' :: t) = (line ++ ['\n']) :: physicalLines t := by
  rw [physicalLines, Text.split_append_cons, Text.split_of_not_mem h, physicalLines]
  simp

theorem physicalLines_fileText {vs : List (Text × Text)} (h : ∀ v ∈ vs, IsName v.1) :
    physicalLines (fileText vs) = vs.map fun v => lineText v ++ ['\n'] := by
  induction vs with
  | nil => rfl
  | cons v vs ih =>
    rw [List.forall_mem_cons] at h
    rw [fileText, List.flatMap_cons, List.append_assoc, List.singleton_append,
      physicalLines_append_cons (lineFeed_notMem_lineText h.1), ← fileText, ih h.2, List.map_cons]

/-! ## Files -/

theorem addLines_lineTexts {vs : List (Text × Text)} (h : ∀ v ∈ vs, IsName v.1)
    (env : Environment) :
    addLines env (logicalLines [] .outside (vs.map fun v => lineText v ++ ['\n'])) =
      vs.foldl (fun env v => env.addNew v.1 v.2) env := by
  induction vs generalizing env with
  | nil => rfl
  | cons v vs ih =>
    rw [List.forall_mem_cons] at h
    rw [List.map_cons, logicalLines_lineText h.1, addLines, statement?_lineText env h.1]
    exact ih h.2 _

/-- **Reading a written file.** Its variables are added one after the other. -/
theorem load_fileText {vs : List (Text × Text)} (h : ∀ v ∈ vs, IsName v.1) (env : Environment) :
    load env (fileText vs) = vs.foldl (fun env v => env.addNew v.1 v.2) env := by
  have hmark : (fileText vs).withoutMark = fileText vs := by
    cases vs with
    | nil => rfl
    | cons v vs =>
      unfold Text.withoutMark
      split
      · rename_i heq
        rw [fileText, List.flatMap_cons, lineText, List.append_assoc, List.append_assoc] at heq
        exact absurd heq ((h v (by simp)).ne_cons rfl _ _)
      · rfl
  rw [load, hmark, physicalLines_fileText h, addLines_lineTexts h]

/-- What is there already stays, and of several variables with one name the
first one counts. -/
theorem get?_load_fileText {vs : List (Text × Text)} (h : ∀ v ∈ vs, IsName v.1)
    (env : Environment) (name : Text) :
    (load env (fileText vs)).get? name = (env.get? name).or (vs.lookup name) := by
  rw [load_fileText h]
  clear h
  induction vs generalizing env with
  | nil => simp
  | cons v vs ih =>
    rw [List.foldl_cons, ih, Environment.get?_addNew, Variables.lookup_cons, Option.or_assoc]
    split_ifs <;> simp

end DotEnv

/-! ## Variables of settings -/

/-- The variable that sets a setting. -/
def Key.variable (key : Key) : Text :=
  "MAILMERGE_".toList ++ (key.sectionName ++ "__".toList ++ key.field).map Char.toUpper

/-- A file can give texts to the variables of all settings. -/
theorem Key.isName_variable (key : Key) : DotEnv.IsName key.variable where
  first := ⟨'M', _, rfl, rfl⟩
  chars := by
    have hchars : ∀ key : Key, key.variable.all DotEnv.isNameChar = true := by decide
    exact List.all_eq_true.mp (hchars key)

/-- Where a setting stands in a configuration. -/
def Key.path (key : Key) : Text := key.sectionName ++ '.' :: key.field

theorem Key.ofKey_path : ∀ key : Key,
    Path.ofKey key.path = [.entry key.sectionName, .entry key.field] := by
  decide +kernel

theorem Key.lower_names : ∀ key : Key,
    key.sectionName.lower = key.sectionName ∧ key.field.lower = key.field := by
  decide +kernel

theorem Key.eq_iff : ∀ key key' : Key,
    key.sectionName = key'.sectionName ∧ key.field = key'.field ↔ key = key' := by
  decide

theorem entriesIn?_path (sectionName : Text) (key : Key) (value : Value) :
    entriesIn? sectionName (key.path, value) =
      some (if key.sectionName = sectionName then [(key.field, value)] else []) := by
  rw [entriesIn?, key.ofKey_path]
  simp only [key.lower_names.1, fieldsAt?, key.lower_names.2, Value.setPath]
  split_ifs <;> rfl

/-- A value at the place of a setting sets it and no other. -/
theorem valuesNamed_entriesIn?_path (key key' : Key) (value : Value) :
    valuesNamed key.field ((entriesIn? key.sectionName (key'.path, value)).getD []) =
      if key' = key then [value] else [] := by
  have heq := Key.eq_iff key' key
  rw [entriesIn?_path, Option.getD_some]
  by_cases hsection : key'.sectionName = key.sectionName
  · rw [if_pos hsection, valuesNamed_cons]
    by_cases hfield : key'.field = key.field
    · rw [if_pos hfield, if_pos (heq.mp ⟨hsection, hfield⟩)]
      rfl
    · rw [if_neg hfield, if_neg fun h => hfield (heq.mpr h).2]
      rfl
  · rw [if_neg hsection, if_neg fun h => hsection (heq.mpr h).1]
    rfl

namespace Environment

/-- The environment in which some settings have variables. -/
def ofSettings (vs : List (Key × Text)) : Environment := vs.map fun v => (v.1.variable, v.2)

theorem key?_variable : ∀ key : Key, key? key.variable = some key.path := by
  decide +kernel

theorem source_ofSettings (vs : List (Key × Text)) :
    source (ofSettings vs) = vs.map fun v => (v.1.path, .scalar (some origin) (scalarOf v.2)) := by
  rw [source, ofSettings, List.filterMap_map, ← List.filterMap_eq_map]
  congr 1
  funext v
  simp [key?_variable]

theorem flatMap_ite {vs : List (Key × Text)} (key : Key) (f : Text → Value) :
    (vs.flatMap fun v => if v.1 = key then [f v.2] else []) =
      ((vs.filter fun v => v.1 == key).map Prod.snd).map f := by
  induction vs with
  | nil => rfl
  | cons v vs ih => by_cases hv : v.1 = key <;> simp [hv, ih]

theorem settingsAt_ofSettings {vs : List (Key × Text)} (h : (vs.map Prod.fst).Nodup) (key : Key) :
    settingsAt key (source (ofSettings vs)) =
      (((vs.lookup key).map scalarOf).map (Value.scalar (some origin))).toList := by
  rw [source_ofSettings, settingsAt, valuesAt, List.flatMap_map]
  simp only [valuesNamed_entriesIn?_path]
  rw [flatMap_ite key fun t => Value.scalar (some origin) (scalarOf t),
    Variables.map_snd_filter h, Option.map_map, Option.toList_map]
  rfl

theorem scalarOf_ne_nothing (t : Text) : scalarOf t ≠ .nothing := by
  unfold scalarOf
  simp only
  split_ifs
  · simp
  · simp
  · split
    · simp
    · split <;> simp

/-- **The settings of variables.** Each is set to what the text of its variable
stands for. -/
theorem settings_of_variables {vs : List (Key × Text)} (h : (vs.map Prod.fst).Nodup) :
    IsOrderly (source (ofSettings vs)) ∧
      ∀ key, setting? key (source (ofSettings vs)) = (vs.lookup key).map scalarOf := by
  refine IsOrderly.of_settingsAt ?_ (settingsAt_ofSettings h) fun key s hs => ?_
  · intro key entry hentry
    rw [source_ofSettings] at hentry
    obtain ⟨v, -, rfl⟩ := List.mem_map.mp hentry
    rw [entriesIn?_path]
    rfl
  · obtain ⟨t, -, rfl⟩ := Option.map_eq_some_iff.mp hs
    exact scalarOf_ne_nothing t

end Environment

end FormLetter.Configuration
