import FormLetter.Mailing
import Mathlib.Data.List.TakeWhile

/-!
# Recipient lines

Recipients are given one by one or as the lines of a file. Either way the
blanks around a recipient do not count, and one that is nothing but blanks is
left out.

Specification: `trimmed` says what becomes of texts that are given one by one.

Results:

* `trimmedLines_append_cons`: the lines of a file are those before a line feed
  and those after it.
* `recipientLines_intercalate`: texts without line feeds come to the same when
  they are written as a file.
-/

namespace FormLetter

namespace Text

/-! ## Specification -/

/-- The texts without the blanks around them, blank ones left out. -/
def trimmed (texts : List Text) : List Text :=
  (texts.filter fun t => !t.all isBlank).map trim

/-! ## Blanks -/

theorem trim_eq_nil_iff {t : Text} : trim t = [] ↔ ∀ c ∈ t, isBlank c = true := by
  rw [trim, trimEnd, List.reverse_eq_nil_iff, List.dropWhile_eq_nil_iff]
  simp only [List.mem_reverse]
  constructor
  · intro h c hc
    rw [← List.takeWhile_append_dropWhile (p := isBlank) (l := t), List.mem_append] at hc
    exact hc.elim List.mem_takeWhile_imp (h c)
  · exact fun h c hc => h c ((List.dropWhile_sublist _).subset hc)

/-- A text is blank if all its characters are. -/
theorem isBlankText_eq_all (t : Text) : isBlankText t = t.all isBlank := by
  rw [Bool.eq_iff_iff, isBlankText, List.isEmpty_iff, trim_eq_nil_iff, List.all_eq_true]

theorem trimmed_append (xs ys : List Text) : trimmed (xs ++ ys) = trimmed xs ++ trimmed ys := by
  rw [trimmed, List.filter_append, List.map_append, trimmed, trimmed]

/-- Trimming before or after blank texts are left out is the same. -/
theorem filter_map_trim (texts : List Text) :
    (texts.map trim).filter (fun t => !t.isEmpty) = trimmed texts := by
  rw [List.filter_map, trimmed]
  refine congrArg (List.map trim) (List.filter_congr fun t _ => ?_)
  rw [Function.comp_apply, ← isBlankText_eq_all, isBlankText]

/-! ## Lines -/

theorem split_append_cons (sep : Char) (s t : Text) :
    split sep (s ++ sep :: t) =
      ((split sep s).1, (split sep s).2 ++ (split sep t).1 :: (split sep t).2) := by
  induction s with
  | nil => simp [split]
  | cons c s ih =>
    by_cases h : c = sep
    · simp [split, h, ih]
    · simp [split, h, ih]

theorem split_of_not_mem {sep : Char} {t : Text} (h : sep ∉ t) : split sep t = (t, []) := by
  induction t with
  | nil => rfl
  | cons c t ih =>
    have hc : c ≠ sep := fun hc => h (hc ▸ List.mem_cons_self)
    rw [split, ih (List.not_mem_of_not_mem_cons h), if_neg hc]

theorem trimmedLines_eq_trimmed (t : Text) :
    trimmedLines t = trimmed ((split '\n' t).1 :: (split '\n' t).2) :=
  filter_map_trim _

/-- A line feed divides the lines of a text. -/
theorem trimmedLines_append_cons (s t : Text) :
    trimmedLines (s ++ '\n' :: t) = trimmedLines s ++ trimmedLines t := by
  rw [trimmedLines_eq_trimmed, split_append_cons, ← List.cons_append, trimmed_append,
    trimmedLines_eq_trimmed, trimmedLines_eq_trimmed]

theorem trimmedLines_of_not_mem {t : Text} (h : '\n' ∉ t) : trimmedLines t = trimmed [t] := by
  rw [trimmedLines_eq_trimmed, split_of_not_mem h]

end Text

/-- Texts without line feeds may be given one by one or as a file. -/
theorem recipientLines_intercalate {entries : List Text} (h : ∀ e ∈ entries, '\n' ∉ e) :
    recipientLines (['\n'].intercalate entries) = Text.trimmed entries := by
  induction entries with
  | nil => rfl
  | cons e entries ih =>
    obtain ⟨he, hentries⟩ := List.forall_mem_cons.mp h
    cases entries with
    | nil => rw [List.intercalate_singleton, recipientLines, Text.trimmedLines_of_not_mem he]
    | cons e' entries =>
      have hfile : ['\n'].intercalate (e :: e' :: entries) =
          e ++ '\n' :: ['\n'].intercalate (e' :: entries) := by
        rw [List.intercalate_cons_cons, List.append_assoc, List.singleton_append]
      rw [hfile, recipientLines, Text.trimmedLines_append_cons, Text.trimmedLines_of_not_mem he,
        ← recipientLines, ih hentries, ← Text.trimmed_append, List.singleton_append]

end FormLetter
