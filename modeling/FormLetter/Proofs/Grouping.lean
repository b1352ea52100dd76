import FormLetter.Proofs.BuiltinCoverage
import Mathlib.Algebra.BigOperators.Group.Finset.Basic
import Mathlib.Algebra.GroupWithZero.Nat

/-!
# An analysis is the grouping of placeholders

An analysis counts the placeholders of a template one after the other and sorts
what it has found. The outcome can be told without counting and sorting: there
is one usage for every key, it tells of the placeholders with this key, and
the usages are in the order of how many these are and where the first one
stands.

Specification: `IsFirsts` describes the distinct items of a list in the order
of their first occurrence, `Usage.IsOf` describes a usage and `IsGrouping` a
list of usages, by means of the placeholders alone.

Results:

* `isFirsts_iff`, `eq_ofGroup`: no other items and no other usage are described.
* `isGrouping_iff`: the usages of an analysis are described, and no others.
* `sum_map_count_mul_usages_analyze`: a sum over the placeholders can be taken
  over the usages.
* `sum_map_count_usages_analyze`: their counts add up to the number of
  placeholders.
* `uses_analyze_iff`: a variable is used if a placeholder has its name as key.
* `usages_group_placeholders`: all of it together.
-/

namespace FormLetter

/-! ## Specification -/

/-- The distinct items of a list in the order in which they first occur. -/
structure IsFirsts {α : Type} [BEq α] (items firsts : List α) : Prop where
  mem_iff : ∀ x, x ∈ firsts ↔ x ∈ items
  pairwise : firsts.Pairwise fun x y => items.idxOf x < items.idxOf y

/-- The usage tells of the placeholders that have its name as key: how many they
are, how they are written and with which braces, and whether the name stands in
the catalogue. -/
structure Usage.IsOf (u : Usage) (ps : List Placeholder) : Prop where
  count_eq : u.count = (ps.filter fun p => p.key = u.name).length
  spellings : IsFirsts ((ps.filter fun p => p.key = u.name).map Placeholder.text) u.spellings
  kind_iff : u.kind = .builtin ↔ ∃ e ∈ Catalogue.builtins, e.name = u.name
  braces : IsFirsts ((ps.filter fun p => p.key = u.name).map fun p => (p.opening, p.closing))
    u.braces

/-- The usages of some placeholders: one for every key, the more frequent key
first, and of equally frequent ones the key that occurs first. -/
structure IsGrouping (ps : List Placeholder) (usages : List Usage) : Prop where
  nodup : (usages.map Usage.name).Nodup
  mem_iff : ∀ name, name ∈ usages.map Usage.name ↔ ∃ p ∈ ps, p.key = name
  isOf : ∀ u ∈ usages, u.IsOf ps
  pairwise : usages.Pairwise fun u v => v.count < u.count ∨
    u.count = v.count ∧ (ps.map Placeholder.key).idxOf u.name < (ps.map Placeholder.key).idxOf v.name

/-! ## First occurrences -/

section

variable {α : Type} [BEq α] {items firsts : List α}

theorem IsFirsts.nodup (h : IsFirsts items firsts) : firsts.Nodup := by
  apply h.pairwise.imp
  rintro x y hlt rfl
  exact Nat.lt_irrefl _ hlt

variable [LawfulBEq α]

theorem isFirsts_eraseDups (items : List α) : IsFirsts items items.eraseDups where
  mem_iff _ := List.mem_eraseDups
  pairwise := pairwise_idxOf_eraseDups items

theorem isFirsts_iff : IsFirsts items firsts ↔ firsts = items.eraseDups := by
  constructor
  · intro h
    have hperm : firsts.Perm items.eraseDups := by
      rw [List.perm_ext_iff_of_nodup h.nodup (nodup_eraseDups items)]
      intro x
      rw [h.mem_iff, List.mem_eraseDups]
    refine hperm.eq_of_pairwise ?_ h.pairwise (pairwise_idxOf_eraseDups items)
    intro x y _ _ hxy hyx
    exact absurd hxy (Nat.lt_asymm hyx)
  · rintro rfl
    exact isFirsts_eraseDups items

end

/-! ## Single usages -/

theorem VariableKind.eq_of_iff {kind other : VariableKind}
    (h : kind = .builtin ↔ other = .builtin) : kind = other := by
  cases kind <;> cases other <;> simp at h ⊢

namespace Usage

variable {ps : List Placeholder} {p : Placeholder}

theorem kind_ofGroup (p : Placeholder) (group : List Placeholder) :
    (ofGroup p.key group).kind = .builtin ↔ ∃ e ∈ Catalogue.builtins, e.name = p.key := by
  have hbuiltin : isBuiltin p.key = true ↔ ∃ e ∈ Catalogue.builtins, e.name = p.key := by
    rw [isBuiltin_iff, Placeholder.key, Text.asciiLower_asciiLower]
  rw [← hbuiltin, ofGroup]
  cases isBuiltin p.key <;> simp

theorem isOf_ofGroup (ps : List Placeholder) (p : Placeholder) :
    (ofGroup p.key (groupOf ps p.key)).IsOf ps where
  count_eq := rfl
  spellings := isFirsts_eraseDups _
  kind_iff := kind_ofGroup p _
  braces := isFirsts_eraseDups _

/-- What is told of a key is the usage of its group. -/
theorem IsOf.eq_ofGroup {u : Usage} (h : u.IsOf ps) (hp : p.key = u.name) :
    u = ofGroup u.name (groupOf ps u.name) := by
  have hspellings := isFirsts_iff.mp h.spellings
  have hbraces := isFirsts_iff.mp h.braces
  have hkind : u.kind = (ofGroup u.name (groupOf ps u.name)).kind := by
    refine VariableKind.eq_of_iff (h.kind_iff.trans ?_)
    rw [← hp, kind_ofGroup]
  cases u
  exact Usage.mk.injEq .. ▸ ⟨rfl, h.count_eq, hspellings, hkind, hbraces⟩

end Usage

/-! ## The usages of an analysis -/

open Template

theorem isGrouping_analyze (template : Text) :
    IsGrouping (placeholders template) (analyze template).usages where
  nodup := by
    rw [map_name_usages_analyze]
    exact nodup_rankedNames template
  mem_iff name := by rw [map_name_usages_analyze, mem_rankedNames]
  isOf u hu := by
    rw [usages_analyze] at hu
    obtain ⟨name, hname, rfl⟩ := List.mem_map.mp hu
    obtain ⟨p, -, rfl⟩ := mem_rankedNames.mp hname
    exact Usage.isOf_ofGroup _ p
  pairwise := by
    rw [usages_analyze, List.pairwise_map]
    refine (pairwise_rankedNames template).imp fun {a b} h => ?_
    simp only [Usage.ofGroup, length_groupOf]
    exact h

namespace IsGrouping

variable {template : Text} {usages : List Usage}

/-- The order leaves no choice. -/
theorem map_name_eq (h : IsGrouping (placeholders template) usages) :
    usages.map Usage.name = rankedNames template := by
  have hcount : ∀ u ∈ usages, u.count = (keys template).count u.name := fun u hu =>
    (h.isOf u hu).count_eq.trans (length_groupOf _ _)
  have hpairwise : (usages.map Usage.name).Pairwise (Precedes template) := by
    rw [List.pairwise_map]
    refine h.pairwise.imp_of_mem fun {u v} hu hv hlt => ?_
    rwa [hcount u hu, hcount v hv] at hlt
  have hperm : (usages.map Usage.name).Perm (rankedNames template) := by
    rw [List.perm_ext_iff_of_nodup h.nodup (nodup_rankedNames template)]
    intro name
    rw [h.mem_iff, mem_rankedNames]
  refine hperm.eq_of_pairwise ?_ hpairwise (pairwise_rankedNames template)
  intro a b _ _ hab hba
  simp only [Precedes] at hab hba
  omega

theorem eq_usages_analyze (h : IsGrouping (placeholders template) usages) :
    usages = (analyze template).usages := by
  rw [usages_analyze, ← h.map_name_eq, List.map_map]
  conv_lhs => rw [← List.map_id usages]
  refine List.map_congr_left fun u hu => ?_
  obtain ⟨p, -, hp⟩ := (h.mem_iff u.name).mp (List.mem_map_of_mem hu)
  exact (h.isOf u hu).eq_ofGroup hp

end IsGrouping

/-- The usages of an analysis are the grouping of its placeholders. -/
theorem isGrouping_iff {template : Text} {usages : List Usage} :
    IsGrouping (placeholders template) usages ↔ usages = (analyze template).usages := by
  constructor
  · exact IsGrouping.eq_usages_analyze
  · rintro rfl
    exact isGrouping_analyze template

/-! ## Totals and names -/

namespace Template

theorem toFinset_rankedNames (template : Text) :
    (rankedNames template).toFinset = (keys template).toFinset := by
  ext name
  rw [List.mem_toFinset, List.mem_toFinset, mem_rankedNames, keys, List.mem_map]

/-- What is summed over the usages, each as often as it counts, is what is
summed over the placeholders. -/
theorem sum_map_count_mul_usages_analyze (f : Text → ℕ) (template : Text) :
    ((analyze template).usages.map fun u => u.count * f u.name).sum =
      ((placeholders template).map fun p => f p.key).sum := by
  have husages : ((analyze template).usages.map fun u => u.count * f u.name) =
      (rankedNames template).map fun name => (keys template).count name * f name := by
    rw [usages_analyze, List.map_map]
    refine List.map_congr_left fun name _ => ?_
    exact congrArg (· * f name) (length_groupOf _ name)
  calc ((analyze template).usages.map fun u => u.count * f u.name).sum
      = ∑ name ∈ (rankedNames template).toFinset, (keys template).count name * f name := by
        rw [husages, List.sum_toFinset _ (nodup_rankedNames template)]
    _ = ((keys template).map f).sum := by
        rw [toFinset_rankedNames, Finset.sum_list_map_count]
        -- the lemma counts with another, equivalent test for equal texts
        simp only [List.count_eq_countP, Bool.beq_eq_decide_eq, Nat.nsmul_eq_mul]
    _ = ((placeholders template).map fun p => f p.key).sum := by rw [keys, List.map_map]; rfl

theorem sum_map_count_usages_analyze (template : Text) :
    ((analyze template).usages.map Usage.count).sum = (placeholders template).length := by
  have hcounts := sum_map_count_mul_usages_analyze (fun _ => 1) template
  simpa using hcounts

theorem uses_analyze_iff {template name : Text} :
    (analyze template).uses name = true ↔ ∃ p ∈ placeholders template, p.key = name.asciiLower := by
  have hname : name.asciiLower ∈ (analyze template).usages.map Usage.name ↔
      ∃ u ∈ (analyze template).usages, u.name = name.asciiLower := List.mem_map
  rw [← mem_rankedNames, ← map_name_usages_analyze, hname, Analysis.uses, List.any_eq_true]
  simp only [decide_eq_true_eq]

/-- **Grouping.** The usages of an analysis are the grouping of the placeholders
of the template by their keys, and nothing else is. The total is the number of
placeholders and the sum of the counts. A variable is used, whatever the case
of the ASCII letters in its name, if some placeholder has its name as key. -/
theorem usages_group_placeholders (template : Text) :
    (∀ usages, IsGrouping (placeholders template) usages ↔
      usages = (analyze template).usages) ∧
    (analyze template).total = (placeholders template).length ∧
    (analyze template).total = ((analyze template).usages.map Usage.count).sum ∧
    ∀ name, (analyze template).uses name = true ↔
      ∃ p ∈ placeholders template, p.key = name.asciiLower := by
  refine ⟨fun _ => isGrouping_iff, rfl, ?_, fun _ => uses_analyze_iff⟩
  rw [sum_map_count_usages_analyze]
  rfl

end Template

end FormLetter
