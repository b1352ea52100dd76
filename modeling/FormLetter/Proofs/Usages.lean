import FormLetter.Analysis
import Mathlib.Data.List.Induction
import Mathlib.Data.Nat.Notation
import Mathlib.Tactic.Common

/-!
# Usages are groups of placeholders

Specification: the placeholders of a template are grouped by their keys, in
the order in which the keys first occur (`groups`), and ranked by the size of
the groups (`rankedNames`).

Results:

* `usages_eq_groups`: counting the placeholders one after the other finds
  their groups.
* `usages_analyze`: an analysis lists the groups by rank.
* `pairwise_rankedNames`: the larger group comes first, and of equally large
  groups the one that occurs first.
-/

namespace FormLetter

/-! ## Lists without repetitions -/

section EraseDups

variable {α : Type} [BEq α] [LawfulBEq α]

theorem eraseDups_concat (items : List α) (x : α) :
    (items ++ [x]).eraseDups = if x ∈ items then items.eraseDups else items.eraseDups ++ [x] := by
  rw [List.eraseDups_append, List.removeAll]
  by_cases hx : x ∈ items
  · simp [hx]
  · simp [hx, List.eraseDups_cons]

theorem appendNew_eraseDups [DecidableEq α] (items : List α) (x : α) :
    appendNew items.eraseDups x = (items ++ [x]).eraseDups := by
  rw [eraseDups_concat, appendNew]
  simp only [List.mem_eraseDups]

/-- What remains is in the order of first occurrence. -/
theorem pairwise_idxOf_eraseDups (items : List α) :
    items.eraseDups.Pairwise fun x y => items.idxOf x < items.idxOf y := by
  induction items using List.reverseRecOn with
  | nil => simp
  | append_singleton items z ih =>
    have hold : items.eraseDups.Pairwise fun x y =>
        (items ++ [z]).idxOf x < (items ++ [z]).idxOf y := by
      refine ih.imp_of_mem fun {x y} hx hy hlt => ?_
      rw [List.mem_eraseDups] at hx hy
      rwa [List.idxOf_append, if_pos hx, List.idxOf_append, if_pos hy]
    rw [eraseDups_concat]
    split_ifs with hz
    · exact hold
    · refine List.pairwise_append.mpr ⟨hold, List.pairwise_singleton _ _, fun x hx y hy => ?_⟩
      rw [List.mem_eraseDups] at hx
      rw [List.mem_singleton.mp hy, List.idxOf_append, if_pos hx, List.idxOf_append, if_neg hz]
      have := List.idxOf_lt_length_of_mem hx
      omega

theorem nodup_eraseDups (items : List α) : items.eraseDups.Nodup := by
  apply (pairwise_idxOf_eraseDups items).imp
  rintro x y hlt rfl
  exact Nat.lt_irrefl _ hlt

end EraseDups

/-! ## Sorting keeps the order of equals -/

/-- Items that are in some order are still in this order after sorting, as far
as the sorting does not tell them apart. -/
theorem pairwise_mergeSort_of_pairwise {α : Type} {le : α → α → Bool} {R : α → α → Prop}
    (trans : ∀ a b c, le a b = true → le b c = true → le a c = true)
    (total : ∀ a b, (le a b || le b a) = true) {items : List α} (h : items.Pairwise R) :
    (items.mergeSort le).Pairwise fun a b => le a b = true ∧ (le b a = true → R a b) := by
  induction items with
  | nil => simp
  | cons x items ih =>
    obtain ⟨hx, hitems⟩ := List.pairwise_cons.mp h
    obtain ⟨before, after, hsort, hsort', hbefore⟩ := List.mergeSort_cons trans total x items
    have hle := List.pairwise_mergeSort trans total (x :: items)
    have hih := ih hitems
    rw [hsort] at hle ⊢
    rw [hsort'] at hih
    obtain ⟨hfront, hback, hcross⟩ := List.pairwise_append.mp hih
    obtain ⟨-, hleback, hlecross⟩ := List.pairwise_append.mp hle
    have hafter : ∀ y ∈ after, y ∈ items := fun y hy => by
      have hsorted : y ∈ items.mergeSort le := hsort' ▸ List.mem_append_right before hy
      exact List.mem_mergeSort.mp hsorted
    refine List.pairwise_append.mpr ⟨hfront, List.pairwise_cons.mpr ⟨fun y hy => ?_, hback⟩, ?_⟩
    · exact ⟨(List.pairwise_cons.mp hleback).1 y hy, fun _ => hx y (hafter y hy)⟩
    · intro y hy z hz
      rcases List.mem_cons.mp hz with rfl | hz
      · -- what stands before the new item is smaller
        refine ⟨hlecross y hy z (List.mem_cons_self ..), fun hzy => ?_⟩
        have := hbefore y hy
        simp [hzy] at this
      · exact hcross y hy z hz

/-! ## Groups -/

/-- The usage that some placeholders with a name add up to. -/
def Usage.ofGroup (name : Text) (group : List Placeholder) : Usage where
  name := name
  count := group.length
  spellings := (group.map Placeholder.text).eraseDups
  kind := if isBuiltin name then .builtin else .custom
  braces := (group.map fun p => (p.opening, p.closing)).eraseDups

/-- The placeholders with a key. -/
def groupOf (ps : List Placeholder) (name : Text) : List Placeholder :=
  ps.filter fun p => p.key = name

theorem mem_groupOf {ps : List Placeholder} {name : Text} {p : Placeholder} :
    p ∈ groupOf ps name ↔ p ∈ ps ∧ p.key = name := by
  rw [groupOf, List.mem_filter, decide_eq_true_eq]

/-- The usages of the groups of placeholders with the same key, in the order
of the first occurrence of the keys. -/
def groups (ps : List Placeholder) : List Usage :=
  (ps.map Placeholder.key).eraseDups.map fun name => .ofGroup name (groupOf ps name)

theorem length_groupOf (ps : List Placeholder) (name : Text) :
    (groupOf ps name).length = (ps.map Placeholder.key).count name := by
  rw [groupOf, List.count, List.countP_map, List.countP_eq_length_filter]
  congr 1
  refine List.filter_congr fun p _ => ?_
  rw [Function.comp_apply, beq_eq_decide]

theorem groupOf_concat (ps : List Placeholder) (p : Placeholder) (name : Text) :
    groupOf (ps ++ [p]) name = groupOf ps name ++ if p.key = name then [p] else [] := by
  rw [groupOf, List.filter_append]
  by_cases h : p.key = name <;> simp [groupOf, h]

theorem add_ofGroup (name : Text) (group : List Placeholder) (p : Placeholder) :
    (Usage.ofGroup name group).add p = .ofGroup name (group ++ [p]) := by
  unfold Usage.add Usage.ofGroup
  simp only [List.map_append, List.map_cons, List.map_nil, appendNew_eraseDups,
    List.length_append, List.length_singleton]

theorem single_eq_ofGroup (p : Placeholder) : Usage.single p = .ofGroup p.key [p] := by
  simp [Usage.single, Usage.ofGroup, List.eraseDups_cons]

/-! ## Counting finds the groups -/

theorem tally_of_notMem {usages : List Usage} {p : Placeholder}
    (h : p.key ∉ usages.map Usage.name) : tally usages p = usages ++ [.single p] := by
  induction usages with
  | nil => rfl
  | cons u usages ih =>
    rw [List.map_cons, List.mem_cons, not_or] at h
    rw [tally, if_neg (Ne.symm h.1), ih h.2, List.cons_append]

/-- A placeholder whose name has a usage is added to this one. -/
theorem tally_of_mem {names : List Text} (group : Text → List Placeholder) {p : Placeholder}
    (hnodup : names.Nodup) (h : p.key ∈ names) :
    tally (names.map fun name => .ofGroup name (group name)) p =
      names.map fun name => .ofGroup name (group name ++ if p.key = name then [p] else []) := by
  induction names with
  | nil => cases h
  | cons name names ih =>
    obtain ⟨hname, hnodup⟩ := List.nodup_cons.mp hnodup
    rw [List.map_cons, List.map_cons, tally]
    by_cases hp : p.key = name
    · have hothers : ∀ other ∈ names, p.key ≠ other := by
        rintro other hother rfl
        exact hname (hp ▸ hother)
      rw [if_pos (by exact hp.symm), add_ofGroup, if_pos hp]
      congr 1
      refine List.map_congr_left fun other hother => ?_
      rw [if_neg (hothers other hother), List.append_nil]
    · rw [if_neg (by exact Ne.symm hp), if_neg hp, List.append_nil,
        ih hnodup (List.mem_of_ne_of_mem hp h)]

theorem map_name_groups (ps : List Placeholder) :
    (groups ps).map Usage.name = (ps.map Placeholder.key).eraseDups := by
  rw [groups, List.map_map]
  exact List.map_id _

/-- Counting one more placeholder gives the groups with this placeholder. -/
theorem tally_groups (ps : List Placeholder) (p : Placeholder) :
    tally (groups ps) p = groups (ps ++ [p]) := by
  by_cases h : p.key ∈ ps.map Placeholder.key
  · rw [groups, groups, tally_of_mem _ (nodup_eraseDups _) (List.mem_eraseDups.mpr h),
      List.map_append, List.map_singleton, eraseDups_concat, if_pos h]
    simp only [groupOf_concat]
  · have hgroups : p.key ∉ (groups ps).map Usage.name := by
      rwa [map_name_groups, List.mem_eraseDups]
    have hempty : groupOf ps p.key = [] := by
      rw [← List.length_eq_zero_iff, length_groupOf]
      exact List.count_eq_zero_of_not_mem h
    rw [tally_of_notMem hgroups, groups, groups, List.map_append, List.map_singleton,
      eraseDups_concat, if_neg h, List.map_append, List.map_singleton, single_eq_ofGroup,
      groupOf_concat, hempty, if_pos rfl, List.nil_append]
    congr 1
    refine List.map_congr_left fun name hname => ?_
    have hne : p.key ≠ name := by
      rintro rfl
      exact h (List.mem_eraseDups.mp hname)
    rw [groupOf_concat, if_neg hne, List.append_nil]

theorem foldl_tally (ps : List Placeholder) : ps.foldl tally [] = groups ps := by
  induction ps using List.reverseRecOn with
  | nil => rfl
  | append_singleton ps p ih =>
    rw [List.foldl_append, ih, List.foldl_cons, List.foldl_nil, tally_groups]

namespace Template

/-- The keys of the placeholders of a template from left to right. -/
def keys (template : Text) : List Text := (placeholders template).map Placeholder.key

theorem usages_eq_groups (template : Text) : usages template = groups (placeholders template) :=
  foldl_tally _

/-! ## The order of an analysis -/

/-- The names that a template uses, the most used ones first. -/
def rankedNames (template : Text) : List Text :=
  (keys template).eraseDups.mergeSort fun a b => (keys template).count b ≤ (keys template).count a

/-- An analysis has the usages of the groups by rank. -/
theorem usages_analyze (template : Text) :
    (analyze template).usages = (rankedNames template).map fun name =>
      .ofGroup name (groupOf (placeholders template) name) := by
  rw [analyze, usages_eq_groups, groups, rankedNames]
  refine (List.map_mergeSort fun a _ b _ => ?_).symm
  simp only [Usage.ofGroup, length_groupOf]
  rfl

theorem mem_rankedNames {template name : Text} :
    name ∈ rankedNames template ↔ ∃ p ∈ placeholders template, p.key = name := by
  rw [rankedNames, List.mem_mergeSort, List.mem_eraseDups, keys, List.mem_map]

/-- Whether a name comes before another in an analysis: it is used more often,
or equally often and first used before the other. -/
def Precedes (template a b : Text) : Prop :=
  (keys template).count b < (keys template).count a ∨
    (keys template).count a = (keys template).count b ∧
      (keys template).idxOf a < (keys template).idxOf b

theorem pairwise_rankedNames (template : Text) :
    (rankedNames template).Pairwise (Precedes template) := by
  let le (a b : Text) : Bool := (keys template).count b ≤ (keys template).count a
  have htrans (a b c : Text) (hab : le a b = true) (hbc : le b c = true) : le a c = true := by
    rw [decide_eq_true_eq] at hab hbc ⊢
    exact Nat.le_trans hbc hab
  have htotal (a b : Text) : (le a b || le b a) = true := by
    rw [Bool.or_eq_true, decide_eq_true_eq, decide_eq_true_eq]
    exact Nat.le_total _ _
  have hsorted := pairwise_mergeSort_of_pairwise htrans htotal
    (pairwise_idxOf_eraseDups (keys template))
  refine hsorted.imp fun {a b} ⟨hle, htie⟩ => ?_
  rw [decide_eq_true_eq] at hle htie
  rcases Nat.lt_or_eq_of_le hle with hlt | heq
  · exact Or.inl hlt
  · exact Or.inr ⟨heq.symm, htie (Nat.le_of_eq heq.symm)⟩

theorem nodup_rankedNames (template : Text) : (rankedNames template).Nodup :=
  (List.mergeSort_perm _ _).nodup_iff.mpr (nodup_eraseDups _)

end Template

end FormLetter
