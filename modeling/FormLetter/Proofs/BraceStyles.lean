import FormLetter.Proofs.Substitution
import FormLetter.Proofs.Usages

/-!
# Names with several brace styles

A name is inconsistent if it is written with different numbers of braces, on
either side. An analysis finds these names by collecting the braces of every
name, and lists them before the usages are ranked.

Results:

* `inconsistent_analyze`: the list in terms of the groups of placeholders.
* `mem_inconsistent_iff`: it has the names of which two placeholders differ in
  their braces.
* `text_injective`: the braces of a placeholder can be told from its text.
* `mem_inconsistent_iff_spellings`: the names are those with spellings that differ
  in more than the case of ASCII letters.
* `inconsistent_lists_brace_styles`: all of it together, with the order.
-/

namespace FormLetter

/-- Without repetitions, a list keeps two items or more if not all are equal. -/
theorem one_lt_length_eraseDups_iff {α : Type} [BEq α] [LawfulBEq α] {items : List α} :
    1 < items.eraseDups.length ↔ ∃ x ∈ items, ∃ y ∈ items, x ≠ y := by
  have hnodup := nodup_eraseDups items
  simp only [← List.mem_eraseDups (l := items)]
  generalize items.eraseDups = kept at hnodup ⊢
  cases kept with
  | nil => simp
  | cons x rest =>
    cases rest with
    | nil => simp
    | cons y rest =>
      have hne : x ≠ y := fun h => (List.nodup_cons.mp hnodup).1 (h ▸ List.mem_cons_self)
      refine iff_of_true (by simp) ⟨x, List.mem_cons_self, y, ?_, hne⟩
      exact List.mem_cons_of_mem _ List.mem_cons_self

/-! ## Spellings -/

namespace Placeholder

variable {p q : Placeholder}

/-- The braces and the name of a placeholder can be told from its text. -/
theorem text_injective (hp : isName p.name = true) (hq : isName q.name = true)
    (h : p.text = q.text) : p = q := by
  have hp' : read? (p.text ++ []) = some (p, []) := read?_text_append hp (by simp)
  have hq' : read? (q.text ++ []) = some (q, []) := read?_text_append hq (by simp)
  rw [h, hq'] at hp'
  exact (Prod.mk.inj (Option.some.inj hp')).1.symm

theorem asciiLower_text (p : Placeholder) :
    p.text.asciiLower = (⟨p.opening, p.key, p.closing⟩ : Placeholder).text := by
  simp only [text, Braces.text, Text.asciiLower, List.map_append, List.map_replicate]
  rfl

/-- Spellings of one name differ in their braces or in the case of ASCII letters
alone. -/
theorem asciiLower_text_eq_iff (hp : isName p.name = true) (hq : isName q.name = true)
    (hkey : p.key = q.key) :
    p.text.asciiLower = q.text.asciiLower ↔ (p.opening, p.closing) = (q.opening, q.closing) := by
  rw [asciiLower_text, asciiLower_text]
  constructor
  · intro h
    obtain ⟨hopening, -, hclosing⟩ :=
      Placeholder.mk.inj (text_injective (isName_key hp) (isName_key hq) h)
    rw [hopening, hclosing]
  · intro h
    obtain ⟨hopening, hclosing⟩ := Prod.mk.inj h
    rw [hopening, hclosing, hkey]

end Placeholder

namespace Template

/-! ## The names that are listed -/

/-- The braces with which a name is written, one for every placeholder. -/
def bracesOf (template name : Text) : List (Braces × Braces) :=
  (groupOf (placeholders template) name).map fun p => (p.opening, p.closing)

theorem inconsistent_analyze (template : Text) : (analyze template).inconsistent =
    (keys template).eraseDups.filter fun name => 1 < (bracesOf template name).eraseDups.length := by
  rw [analyze, usages_eq_groups, groups, List.filter_map, List.map_map]
  exact List.map_id _

/-- A name is listed if two placeholders with this key differ in their
braces. -/
theorem mem_inconsistent_iff {template name : Text} :
    name ∈ (analyze template).inconsistent ↔
      ∃ p ∈ placeholders template, ∃ q ∈ placeholders template, p.key = name ∧ q.key = name ∧
        (p.opening, p.closing) ≠ (q.opening, q.closing) := by
  rw [inconsistent_analyze, List.mem_filter, decide_eq_true_eq, one_lt_length_eraseDups_iff,
    List.mem_eraseDups]
  constructor
  · rintro ⟨-, _, hx, _, hy, hne⟩
    obtain ⟨p, hp, rfl⟩ := List.mem_map.mp hx
    obtain ⟨q, hq, rfl⟩ := List.mem_map.mp hy
    obtain ⟨hp, hpname⟩ := mem_groupOf.mp hp
    obtain ⟨hq, hqname⟩ := mem_groupOf.mp hq
    exact ⟨p, hp, q, hq, hpname, hqname, hne⟩
  · rintro ⟨p, hp, q, hq, hpname, hqname, hne⟩
    refine ⟨hpname ▸ List.mem_map_of_mem hp, _, ?_, _, ?_, hne⟩
    · exact List.mem_map_of_mem (mem_groupOf.mpr ⟨hp, hpname⟩)
    · exact List.mem_map_of_mem (mem_groupOf.mpr ⟨hq, hqname⟩)

theorem mem_spellings_iff {template s : Text} {u : Usage} (hu : u ∈ (analyze template).usages) :
    s ∈ u.spellings ↔ ∃ p ∈ placeholders template, p.key = u.name ∧ p.text = s := by
  rw [usages_analyze] at hu
  obtain ⟨name, -, rfl⟩ := List.mem_map.mp hu
  simp only [Usage.ofGroup, List.mem_eraseDups, List.mem_map, mem_groupOf, and_assoc]

/-- A name is listed if two of its spellings differ in more than the case of
ASCII letters. -/
theorem mem_inconsistent_iff_spellings {template : Text} {u : Usage}
    (hu : u ∈ (analyze template).usages) :
    u.name ∈ (analyze template).inconsistent ↔
      ∃ s ∈ u.spellings, ∃ t ∈ u.spellings, s.asciiLower ≠ t.asciiLower := by
  rw [mem_inconsistent_iff]
  constructor
  · rintro ⟨p, hp, q, hq, hpname, hqname, hne⟩
    refine ⟨p.text, (mem_spellings_iff hu).mpr ⟨p, hp, hpname, rfl⟩, q.text,
      (mem_spellings_iff hu).mpr ⟨q, hq, hqname, rfl⟩, fun hlower => hne ?_⟩
    rwa [Placeholder.asciiLower_text_eq_iff (isName_of_mem_placeholders hp)
      (isName_of_mem_placeholders hq) (hpname.trans hqname.symm)] at hlower
  · rintro ⟨_, hs, _, ht, hne⟩
    obtain ⟨p, hp, hpname, rfl⟩ := (mem_spellings_iff hu).mp hs
    obtain ⟨q, hq, hqname, rfl⟩ := (mem_spellings_iff hu).mp ht
    refine ⟨p, hp, q, hq, hpname, hqname, fun hbraces => hne ?_⟩
    rwa [Placeholder.asciiLower_text_eq_iff (isName_of_mem_placeholders hp)
      (isName_of_mem_placeholders hq) (hpname.trans hqname.symm)]

theorem pairwise_inconsistent (template : Text) :
    (analyze template).inconsistent.Pairwise fun a b =>
      (keys template).idxOf a < (keys template).idxOf b := by
  rw [inconsistent_analyze]
  exact (pairwise_idxOf_eraseDups (keys template)).filter _

theorem nodup_inconsistent (template : Text) : (analyze template).inconsistent.Nodup := by
  rw [inconsistent_analyze]
  exact (nodup_eraseDups (keys template)).filter _

/-- **Brace styles.** An analysis lists as inconsistent the names of which two
placeholders differ in their braces, each of them once and in the order of
their first placeholders, however often they are used. Spellings of a name
differ in more than the case of ASCII letters exactly if the name is listed, so
that a name with a single spelling is not. -/
theorem inconsistent_lists_brace_styles (template : Text) :
    (∀ name, name ∈ (analyze template).inconsistent ↔
      ∃ p ∈ placeholders template, ∃ q ∈ placeholders template, p.key = name ∧ q.key = name ∧
        (p.opening, p.closing) ≠ (q.opening, q.closing)) ∧
    (analyze template).inconsistent.Nodup ∧
    ((analyze template).inconsistent.Pairwise fun a b =>
      (keys template).idxOf a < (keys template).idxOf b) ∧
    ∀ u ∈ (analyze template).usages,
      (u.name ∉ (analyze template).inconsistent ↔
        ∀ s ∈ u.spellings, ∀ t ∈ u.spellings, s.asciiLower = t.asciiLower) ∧
      (u.spellings.length = 1 → u.name ∉ (analyze template).inconsistent) := by
  refine ⟨fun _ => mem_inconsistent_iff, nodup_inconsistent template,
    pairwise_inconsistent template, fun u hu => ?_⟩
  have hlisted : u.name ∉ (analyze template).inconsistent ↔
      ∀ s ∈ u.spellings, ∀ t ∈ u.spellings, s.asciiLower = t.asciiLower := by
    rw [mem_inconsistent_iff_spellings hu]
    simp only [not_exists, not_and, ne_eq, not_not]
  refine ⟨hlisted, fun hlength => hlisted.mpr ?_⟩
  obtain ⟨spelling, hspelling⟩ := List.length_eq_one_iff.mp hlength
  rw [hspelling]
  intro s hs t ht
  rw [List.mem_singleton.mp hs, List.mem_singleton.mp ht]

/-- A name with uneven braces on either side, and one that is always written
alike. -/
theorem inconsistent_lists_uneven_braces :
    let template := "\x7bb\x7d \x7bA\x7d\x7d \x7b\x7ba\x7d \x7bb\x7d".toList
    let usage : Usage := ⟨"b".toList, 2, ["\x7bb\x7d".toList], .custom, [(.one, .one)]⟩
    "a".toList ∈ (analyze template).inconsistent ∧
      usage ∈ (analyze template).usages ∧ usage.spellings.length = 1 ∧
      usage.name ∉ (analyze template).inconsistent ∧
      ∀ s ∈ usage.spellings, ∀ t ∈ usage.spellings, s.asciiLower = t.asciiLower := by
  intro template usage
  have husage : usage ∈ (analyze template).usages := by
    rw [analyze, List.mem_mergeSort]
    decide +kernel
  obtain ⟨hlisted, -, -, husages⟩ := inconsistent_lists_brace_styles template
  obtain ⟨hspellings, hsingle⟩ := husages usage husage
  have hname := hsingle (by decide)
  refine ⟨(hlisted _).mpr ?_, husage, by decide, hname, hspellings.mp hname⟩
  decide +kernel

end Template

end FormLetter
