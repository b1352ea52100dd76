import FormLetter.Proofs.MessageSize
import FormLetter.Proofs.Missing

/-!
# A template sees the variables that it uses

An analysis lists the variables of a template. Two records may differ in all
others, in the names of their fields and in the mark of a malformed address:
the template cannot tell them apart. And no variable is listed in vain.

Results:

* `resolve_eq_of_rankedNames`, `analyzeFor_eq_of_rankedNames`: records that agree
  on the variables that are listed are resolved and analysed alike.
* `size_message_lt_of_get`: a longer value for one of them makes a longer
  message.
* `usages_determine_resolution`: what an analysis lists is just what counts.
-/

namespace FormLetter.Template

variable {template : Text} {record other : Record}

/-! ## Records that agree -/

theorem key_mem_rankedNames {p : Placeholder} (h : p ∈ placeholders template) :
    p.key ∈ rankedNames template :=
  mem_rankedNames.mpr ⟨p, h, rfl⟩

theorem get?_name_eq_get?_key {p : Placeholder} (h : p ∈ placeholders template) (record : Record) :
    record.get? p.name = record.get? p.key := by
  have hname := isName_of_mem_placeholders h
  rw [Record.get?_name record hname, Record.get?_key record hname]

theorem get_name_eq_get_key {p : Placeholder} (h : p ∈ placeholders template) (record : Record) :
    record.get p.name = record.get p.key := by
  rw [Record.get, Record.get, get?_name_eq_get?_key h]

theorem resolve_eq_of_rankedNames
    (h : ∀ name ∈ rankedNames template, record.get? name = other.get? name) :
    record.resolve template = other.resolve template := by
  refine Record.resolve_congr_of_get? fun p hp => ?_
  rw [get?_name_eq_get?_key hp, get?_name_eq_get?_key hp, h p.key (key_mem_rankedNames hp)]

theorem analyzeFor_eq_of_rankedNames
    (h : ∀ name ∈ rankedNames template, record.get? name = other.get? name) :
    analyzeFor template record = analyzeFor template other := by
  have hmissing : missingNames template record = missingNames template other := by
    refine List.filter_congr fun name hname => ?_
    rw [Record.contains_eq_isSome_get?, Record.contains_eq_isSome_get?, h name hname]
  rw [analyzeFor_eq, analyzeFor_eq, hmissing]

/-! ## Records that differ -/

/-- A longer value for one of the variables, and the same values for the
others, make a longer message. -/
theorem size_message_lt_of_get {name : Text} (hname : name ∈ rankedNames template)
    (hlt : (record.get name).size < (other.get name).size)
    (hothers : ∀ n ∈ rankedNames template, n ≠ name → record.get? n = other.get? n) :
    (record.resolve template).message.size < (other.resolve template).message.size := by
  apply Record.size_message_lt
  · intro p hp
    rw [get_name_eq_get_key hp, get_name_eq_get_key hp]
    by_cases hkey : p.key = name
    · rw [hkey]
      exact Nat.le_of_lt hlt
    · rw [Record.get, Record.get, hothers p.key (key_mem_rankedNames hp) hkey]
  · obtain ⟨p, hp, rfl⟩ := mem_rankedNames.mp hname
    refine ⟨p, hp, ?_⟩
    rwa [get_name_eq_get_key hp, get_name_eq_get_key hp]

/-- **What a template uses.** Records that give the same for the variables that
an analysis lists are the same for the template: it is resolved to the same
message with the same names reported, and its analyses are the same. And every
variable that is listed shows in the message: if its value has another number
of bytes, where no value counts as the empty one, the message is another. -/
theorem usages_determine_resolution (template : Text) :
    let names := (analyze template).usages.map Usage.name
    (∀ record other : Record, (∀ n ∈ names, record.get? n = other.get? n) →
      record.resolve template = other.resolve template ∧
        analyzeFor template record = analyzeFor template other) ∧
    ∀ name ∈ names, ∀ record other : Record,
      (∀ n ∈ names, n ≠ name → record.get? n = other.get? n) →
      (record.get name).size ≠ (other.get name).size →
      (record.resolve template).message ≠ (other.resolve template).message := by
  intro names
  have hnames : names = rankedNames template := map_name_usages_analyze template
  rw [hnames]
  constructor
  · intro record other h
    exact ⟨resolve_eq_of_rankedNames h, analyzeFor_eq_of_rankedNames h⟩
  · intro name hname record other hothers hne heq
    -- the shorter of the two values makes the shorter message
    rcases Nat.lt_or_gt_of_ne hne with hlt | hgt
    · have hsize := size_message_lt_of_get hname hlt hothers
      rw [heq] at hsize
      exact Nat.lt_irrefl _ hsize
    · have hsize := size_message_lt_of_get hname hgt fun n hn hother => (hothers n hn hother).symm
      rw [heq] at hsize
      exact Nat.lt_irrefl _ hsize

/-- Fields that are not used make no difference, and a longer name does. -/
theorem usages_determine_greeting :
    let template := "Hi \x7bName\x7d\x7d, \x7bcity\x7d".toList
    let ann := Record.ofPairs [("name".toList, "Ann".toList)]
    let other := Record.ofPairs [(" NAME".toList, "Ann".toList), ("age".toList, "9".toList)]
    let anna := Record.ofPairs [("name".toList, "Anna".toList)]
    (ann.resolve template = other.resolve template ∧
      analyzeFor template ann = analyzeFor template other) ∧
    (ann.resolve template).message ≠ (anna.resolve template).message := by
  intro template ann other anna
  have hkeys : keys template = ["name".toList, "city".toList] := by decide +kernel
  have hnames (n : Text) : n ∈ (analyze template).usages.map Usage.name ↔
      n ∈ ["name".toList, "city".toList] := by
    rw [mem_map_name_usages_analyze, hkeys]
  have hsame : ∀ n ∈ ["name".toList, "city".toList], ann.get? n = other.get? n := by
    decide +kernel
  have hothers : ∀ n ∈ ["name".toList, "city".toList], n ≠ "name".toList →
      ann.get? n = anna.get? n := by
    decide +kernel
  obtain ⟨hunused, hused⟩ := usages_determine_resolution template
  refine ⟨hunused ann other fun n hn => hsame n ((hnames n).mp hn), ?_⟩
  refine hused "name".toList ((hnames _).mpr (by decide)) ann anna
    (fun n hn => hothers n ((hnames n).mp hn)) ?_
  decide +kernel

end FormLetter.Template
