import FormLetter.Proofs.LineRecord
import FormLetter.Proofs.MergedMessages
import FormLetter.Proofs.Missing

/-!
# Built-in variables are never missing

The catalogue names the built-in variables, the record of a line starts with
them, and an analysis tells them from the variables that have to be given as
fields. The three go together: fields replace built-in variables and never
remove them, so that a line can lack nothing but fields.

Specification: `Analysis.ListsCustom` says that an analysis lists a variable
as one that has to be given as a field.

Results:

* `isBuiltin_iff`: the built-in names are those of the catalogue in any case of
  ASCII letters.
* `contains_record_of_isBuiltin`: the record of a line has all of them.
* `listsCustom_of_mem_keys`: a name that is used and not built in is listed as
  that of a field.
* `record_covers_builtins`: what a line lacks is not built in, and what is not
  built in comes from its fields.
-/

namespace FormLetter

/-! ## Specification -/

/-- The analysis lists the variable, as one that has to be given as a field. -/
def Analysis.ListsCustom (analysis : Analysis) (name : Text) : Prop :=
  ∃ u ∈ analysis.usages, u.name = name ∧ u.kind = .custom ∧ u ∈ analysis.customVariables

/-! ## Names -/

theorem isBuiltin_iff {name : Text} :
    isBuiltin name = true ↔ ∃ e ∈ Catalogue.builtins, e.name = name.asciiLower := by
  rw [isBuiltin, List.any_eq_true]
  refine exists_congr fun e => and_congr_right fun he => ?_
  rw [decide_eq_true_eq, Catalogue.asciiLower_name e he]

theorem Builtin.isBuiltin_name (b : Builtin) : isBuiltin b.name = true := by cases b <;> decide

theorem Builtin.isName_name (b : Builtin) : isName b.name = true := by cases b <;> decide

/-- Built-in names are ASCII in every letter case, and their lower case is the
name of a built-in variable. -/
theorem exists_name_eq_lower {name : Text} (h : isBuiltin name = true) :
    ∃ b : Builtin, b.name = name.lower := by
  obtain ⟨e, he, hname⟩ := isBuiltin_iff.mp h
  obtain ⟨b, hb⟩ := Catalogue.exists_name_eq he
  rw [hname] at hb
  have hname : isName name = true := by rw [← isName_asciiLower, ← hb, b.isName_name]
  exact ⟨b, by rw [hb, lower_eq_asciiLower_of_isName hname]⟩

/-! ## Records of lines -/

namespace Context

variable {context : Context} {raw name : Text}

theorem contains_record_of_isBuiltin (h : isBuiltin name = true) :
    (context.record raw).contains name = true := by
  obtain ⟨b, hb⟩ := exists_name_eq_lower h
  rw [Record.contains, List.contains_iff_mem, ← hb]
  exact context.mem_keys_record.mpr (Or.inl (List.mem_map_of_mem b.mem_all))

theorem isBuiltin_eq_false_of_get? (h : (context.record raw).get? name = none) :
    isBuiltin name = false := by
  cases hname : isBuiltin name with
  | false => rfl
  | true =>
    have hcontains : (context.record raw).contains name = true :=
      contains_record_of_isBuiltin hname
    rw [Record.contains_eq_isSome_get?, h] at hcontains
    cases hcontains

theorem mem_custom_of_mem_keys (hkey : name ∈ (context.record raw).keys)
    (hname : isBuiltin name = false) : name ∈ (context.record raw).custom := by
  rcases context.mem_keys_record.mp hkey with hbuiltin | hcustom
  · obtain ⟨b, -, rfl⟩ := List.mem_map.mp hbuiltin
    rw [b.isBuiltin_name] at hname
    cases hname
  · exact hcustom

end Context

/-! ## Analyses -/

namespace Template

theorem listsCustom_of_mem_keys {template name : Text} (hkey : name ∈ keys template)
    (hname : isBuiltin name = false) : (analyze template).ListsCustom name := by
  obtain ⟨u, hu, rfl⟩ := List.mem_map.mp (mem_map_name_usages_analyze.mpr hkey)
  have hkind : u.kind = .custom := by
    rw [usages_analyze] at hu
    obtain ⟨n, -, rfl⟩ := List.mem_map.mp hu
    exact if_neg (Bool.not_eq_true _ ▸ hname)
  refine ⟨u, hu, rfl, hkind, ?_⟩
  rw [Analysis.customVariables, List.mem_filter, decide_eq_true_eq]
  exact ⟨hu, hkind⟩

end Template

namespace Context

variable {context : Context}

/-- What resolving for a line reports is not built in, and the analysis of the
template lists it as a field. -/
theorem listsCustom_of_mem_unknown {raw template name : Text}
    (h : name ∈ ((context.record raw).resolve template).unknown) :
    isBuiltin name = false ∧ (Template.analyze template).ListsCustom name := by
  obtain ⟨⟨p, hp, rfl⟩, hnone⟩ := Record.mem_unknown_iff_get?.mp h
  have hname := isBuiltin_eq_false_of_get? hnone
  exact ⟨hname, Template.listsCustom_of_mem_keys (List.mem_map_of_mem hp) hname⟩

theorem listsCustom_of_mem_merge {mailing : Mailing} {merger : Merger} {lines : List Text}
    {m : Message} (hm : m ∈ mailing.merge merger lines) {name : Text} (h : name ∈ m.unknown) :
    isBuiltin name = false ∧
      ((Template.analyze (mailing.subjectFor m.index)).ListsCustom name ∨
        (Template.analyze mailing.body).ListsCustom name) := by
  obtain ⟨line, -, index, rfl⟩ := mailing.exists_of_mem_merge merger hm
  have hmessage := mailing.isMessageFor_message (merger.context index) index line
  rcases (hmessage.mem_unknown_iff_reported name).mp h with hsubject | hbody
  · obtain ⟨hname, hlists⟩ := listsCustom_of_mem_unknown hsubject
    exact ⟨hname, Or.inl hlists⟩
  · obtain ⟨hname, hlists⟩ := listsCustom_of_mem_unknown hbody
    exact ⟨hname, Or.inr hlists⟩

/-- **Built-in variables.** The names of the catalogue, in any case of ASCII
letters, are variables of the record of every line. So no name that resolving
reports, that an analysis misses or that a message is sent without is built in,
and the analysis of the template that uses it lists it as a field. All names of
the record that are not built in are those of fields. -/
theorem record_covers_builtins (context : Context) :
    (∀ name, isBuiltin name = true ↔
      ∃ e ∈ Catalogue.builtins, e.name = name.asciiLower) ∧
    (∀ raw name, isBuiltin name = true → (context.record raw).contains name = true) ∧
    (∀ raw template, ∀ name ∈ ((context.record raw).resolve template).unknown,
      isBuiltin name = false ∧ (Template.analyze template).ListsCustom name) ∧
    (∀ raw template, ∃ missing,
      (Template.analyzeFor template (context.record raw)).missing = some missing ∧
      ∀ name ∈ missing,
        isBuiltin name = false ∧ (Template.analyze template).ListsCustom name) ∧
    (∀ mailing (merger : Merger) lines, ∀ m ∈ Mailing.merge mailing merger lines,
      ∀ name ∈ m.unknown, isBuiltin name = false ∧
        ((Template.analyze (mailing.subjectFor m.index)).ListsCustom name ∨
          (Template.analyze mailing.body).ListsCustom name)) ∧
    ∀ raw, ∀ key ∈ (context.record raw).keys,
      isBuiltin key = false → key ∈ (context.record raw).custom := by
  refine ⟨fun _ => isBuiltin_iff, fun _ _ => contains_record_of_isBuiltin,
    fun _ _ _ => listsCustom_of_mem_unknown, fun raw template => ?_,
    fun _ _ _ _ hm _ => listsCustom_of_mem_merge hm, fun _ _ => mem_custom_of_mem_keys⟩
  refine ⟨_, Template.missing_analyzeFor template _, fun name hname => ?_⟩
  rw [(Template.missingNames_perm template _).mem_iff] at hname
  exact listsCustom_of_mem_unknown hname

/-- A line without an address that gives one built-in variable and one other. -/
theorem record_covers_builtins_of_fields :
    let context : Context := ⟨⟨2024, 1, 1, 0, 0, 0, 0⟩, defaultUnsubscribeBase⟩
    let raw := "nobody|Year=2030|PLAN=Pro".toList
    let template := "\x7bFirstName\x7d \x7byear\x7d \x7bplan\x7d \x7bCity\x7d".toList
    isBuiltin "FirstName".toList = true ∧
      (context.record raw).contains "FirstName".toList = true ∧
      "city".toList ∈ ((context.record raw).resolve template).unknown ∧
      (Template.analyze template).ListsCustom "city".toList ∧
      (∃ missing, (Template.analyzeFor template (context.record raw)).missing = some missing ∧
        ∀ name ∈ missing, isBuiltin name = false) ∧
      (∀ m ∈ Mailing.merge ⟨[], template⟩ context [raw], ∀ name ∈ m.unknown,
        isBuiltin name = false) ∧
      "plan".toList ∈ (context.record raw).custom := by
  intro context raw template
  obtain ⟨-, hcontains, hunknown, hmissing, hmerge, hcustom⟩ := record_covers_builtins context
  have hbuiltin : isBuiltin "FirstName".toList = true := by decide
  have hcity : "city".toList ∈ ((context.record raw).resolve template).unknown := by
    decide +kernel
  obtain ⟨missing, hanalysis, hnames⟩ := hmissing raw template
  refine ⟨hbuiltin, hcontains raw _ hbuiltin, hcity, (hunknown raw template _ hcity).2,
    ⟨missing, hanalysis, fun name hname => (hnames name hname).1⟩,
    fun m hm name hname => (hmerge _ context _ m hm name hname).1, hcustom raw _ ?_ (by decide)⟩
  decide +kernel

end Context

end FormLetter
