import FormLetter.Proofs.LowerCase
import FormLetter.Recipient.Line
import Mathlib.Data.List.DropRight

/-!
# Trimmed texts and field names

Specification: `IsTrimmed` says of a text that it neither starts nor ends with
a blank, `Recipient.IsKey` of a name that trimming and lower case leave it as
it is.

Results:

* `trim_eq_self_iff`, `trim_trim`: trimming keeps the trimmed texts and makes
  nothing but trimmed texts.
* `isTrimmed_lower`: a trimmed text is trimmed in lower case, too.
* `isKey_fieldKey`: the names under which fields are stored are looked up and
  stored under themselves.
-/

namespace FormLetter

namespace Text

/-! ## Specification -/

/-- The text neither starts nor ends with a blank. -/
structure IsTrimmed (t : Text) : Prop where
  head : ∀ c ∈ t.head?, isBlank c = false
  last : ∀ c ∈ t.getLast?, isBlank c = false

/-! ## Trimming -/

theorem eq_false_of_mem_head?_dropWhile {p : Char → Bool} {t : Text} {c : Char}
    (h : c ∈ (t.dropWhile p).head?) : p c = false := by
  have := List.head?_dropWhile_not p t
  rw [Option.mem_def.mp h] at this
  simpa using this

theorem dropWhile_eq_self {α : Type*} {p : α → Bool} {t : List α}
    (h : ∀ c ∈ t.head?, p c = false) : t.dropWhile p = t := by
  cases t with
  | nil => rfl
  | cons c t =>
    have hc : p c = false := h c rfl
    exact List.dropWhile_cons_of_neg (by simp [hc])

/-- A scan for a class takes what is of the class and stops where the class
ends. -/
theorem takeWhile_dropWhile_append {α : Type*} {p : α → Bool} {s rest : List α}
    (hs : ∀ c ∈ s, p c = true) (hrest : ∀ c ∈ rest.head?, p c = false) :
    (s ++ rest).takeWhile p = s ∧ (s ++ rest).dropWhile p = rest := by
  rw [List.takeWhile_append_of_pos hs, List.dropWhile_append_of_pos hs, dropWhile_eq_self hrest]
  cases rest with
  | nil => simp
  | cons c rest => simp [hrest c rfl]

theorem isTrimmed_trim (t : Text) : IsTrimmed (trim t) where
  head c hc := by
    obtain ⟨blanks, he⟩ := List.rdropWhile_prefix isBlank (trimStart t)
    have hfirst : ((trimStart t).rdropWhile isBlank).head? = some c := hc
    have hstart : c ∈ (trimStart t).head? := by
      rw [← he, List.head?_append, hfirst]
      rfl
    exact eq_false_of_mem_head?_dropWhile hstart
  last c hc := by
    rw [trim, trimEnd, List.getLast?_reverse] at hc
    exact eq_false_of_mem_head?_dropWhile hc

theorem IsTrimmed.trim_eq {t : Text} (h : IsTrimmed t) : trim t = t := by
  have hstart : trimStart t = t := dropWhile_eq_self h.head
  have hend : t.reverse.dropWhile isBlank = t.reverse := by
    refine dropWhile_eq_self fun c hc => h.last c ?_
    rwa [List.head?_reverse] at hc
  rw [trim, hstart, trimEnd, hend, List.reverse_reverse]

theorem trim_eq_self_iff {t : Text} : trim t = t ↔ IsTrimmed t := by
  refine ⟨fun h => ?_, IsTrimmed.trim_eq⟩
  rw [← h]
  exact isTrimmed_trim t

theorem trim_trim (t : Text) : trim (trim t) = trim t := (isTrimmed_trim t).trim_eq

theorem mem_of_mem_trim {t : Text} {c : Char} (h : c ∈ trim t) : c ∈ t := by
  have hstart : c ∈ trimStart t := (List.rdropWhile_prefix isBlank (trimStart t)).subset h
  exact (List.dropWhile_sublist isBlank).subset hstart

/-! ## Trimming and lower case -/

theorem mem_head?_of_mem_head?_lowerAfter {before t : Text} {d : Char}
    (h : d ∈ (lowerAfter before t).head?) (hdivider : isDivider d = true) : d ∈ t.head? := by
  cases t with
  | nil => cases h
  | cons c t =>
    obtain ⟨image, himage, he⟩ := exists_lowerImage before c t
    rw [he] at h
    cases image with
    | nil => exact absurd rfl himage.ne_nil
    | cons e image =>
      obtain rfl : e = d := by simpa using h
      rw [himage.eq_of_isDivider e List.mem_cons_self hdivider]
      rfl

theorem lowerAfter_ne_nil (before : Text) (c : Char) (t : Text) :
    lowerAfter before (c :: t) ≠ [] := by
  obtain ⟨image, himage, he⟩ := exists_lowerImage before c t
  rw [he]
  exact List.append_ne_nil_of_left_ne_nil himage.ne_nil _

theorem mem_getLast?_of_mem_getLast?_lowerAfter {before t : Text} {d : Char}
    (h : d ∈ (lowerAfter before t).getLast?) (hdivider : isDivider d = true) :
    d ∈ t.getLast? := by
  induction t generalizing before with
  | nil => cases h
  | cons c t ih =>
    obtain ⟨image, himage, he⟩ := exists_lowerImage before c t
    rw [he] at h
    cases t with
    | nil =>
      rw [lowerAfter, List.append_nil] at h
      rw [himage.eq_of_isDivider d (List.mem_of_getLast? h) hdivider]
      rfl
    | cons c' t =>
      rw [List.getLast?_append_of_ne_nil _ (lowerAfter_ne_nil _ _ _)] at h
      rw [List.getLast?_cons_cons]
      exact ih h

theorem isDivider_of_isBlank {c : Char} (h : isBlank c = true) : isDivider c = true := by
  simp [isDivider, h]

/-- Lower case leaves no blanks at the ends. -/
theorem isTrimmed_lower {t : Text} (h : IsTrimmed t) : IsTrimmed (lower t) where
  head c hc := by
    rw [← Bool.not_eq_true]
    intro hblank
    have hmem := mem_head?_of_mem_head?_lowerAfter hc (isDivider_of_isBlank hblank)
    exact absurd (h.head c hmem) (by simp [hblank])
  last c hc := by
    rw [← Bool.not_eq_true]
    intro hblank
    have hmem := mem_getLast?_of_mem_getLast?_lowerAfter hc (isDivider_of_isBlank hblank)
    exact absurd (h.last c hmem) (by simp [hblank])

end Text

/-! ## Field names -/

namespace Recipient

/-- Trimming and lower case leave the name as it is. -/
structure IsKey (name : Text) : Prop where
  trim_eq : name.trim = name
  lower_eq : name.lower = name

theorem isKey_fieldKey (name : Text) : IsKey (fieldKey name) where
  trim_eq := (Text.isTrimmed_lower (Text.isTrimmed_trim name)).trim_eq
  lower_eq := Text.lower_lower name.trim

theorem IsKey.fieldKey_eq {name : Text} (h : IsKey name) : fieldKey name = name := by
  rw [fieldKey, h.trim_eq, h.lower_eq]

/-- A divider in the stored name stands in the name itself. -/
theorem mem_of_mem_fieldKey {name : Text} {c : Char} (h : c ∈ fieldKey name)
    (hdivider : Text.isDivider c = true) : c ∈ name :=
  Text.mem_of_mem_trim (Text.mem_of_mem_lower h hdivider)

end Recipient

end FormLetter
