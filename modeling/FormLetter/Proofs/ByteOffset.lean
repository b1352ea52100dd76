import FormLetter.Text.Basic
import Mathlib.Data.Nat.Notation
import Mathlib.Tactic.Common

/-!
# Byte offsets

An offset counts the UTF-8 bytes of a text. A text can be cut only where one
character ends and the next begins; cutting it elsewhere gives nothing.

Results:

* `cutAt?_eq_some_iff`: a cut at an offset leaves as many bytes before it.
* `slice?_eq_some_iff`: the slice between two offsets is the text that stands
  there.
* `append_inj_size`: a text falls into two parts in only one way, given the
  size of the first.
-/

namespace FormLetter.Text

theorem size_pos_of_ne_nil {t : Text} (h : t ≠ []) : 0 < size t := by
  cases t with
  | nil => exact absurd rfl h
  | cons c t =>
    have := c.utf8Size_pos
    rw [size_cons]
    omega

/-- The two parts of a text are known from the text and the size of the
first part. -/
theorem append_inj_size {s s' t t' : Text} (h : s ++ t = s' ++ t') (hsize : size s = size s') :
    s = s' ∧ t = t' := by
  induction s generalizing s' with
  | nil =>
    have hs' : s' = [] := by
      by_contra hne
      have := size_pos_of_ne_nil hne
      rw [← hsize, size_nil] at this
      omega
    subst hs'
    exact ⟨rfl, h⟩
  | cons c s ih =>
    cases s' with
    | nil =>
      have := size_pos_of_ne_nil (List.cons_ne_nil c s)
      rw [hsize, size_nil] at this
      omega
    | cons c' s' =>
      obtain ⟨rfl, hrest⟩ := List.cons.inj h
      obtain ⟨rfl, rfl⟩ := ih hrest (by simpa using hsize)
      exact ⟨rfl, rfl⟩

/-- Of two first parts of a text, the one with fewer bytes begins the other. -/
theorem exists_append_of_size_le {s s' t t' : Text} (h : s ++ t = s' ++ t')
    (hsize : size s ≤ size s') : ∃ m, s' = s ++ m ∧ t = m ++ t' := by
  rcases List.append_eq_append_iff.mp h with ⟨m, hs', ht⟩ | ⟨m, hs, ht'⟩
  · exact ⟨m, hs', ht⟩
  · rw [hs, size_append] at hsize
    have hm : m = [] := by
      by_contra hne
      have := size_pos_of_ne_nil hne
      omega
    subst hm
    exact ⟨[], by simpa using hs.symm, by simpa using ht'.symm⟩

/-! ## Cutting -/

/-- The texts before and after the first `n` bytes, if a character ends
there. -/
def cutAt? (n : ℕ) : Text → Option (Text × Text)
  | [] => if n = 0 then some ([], []) else none
  | c :: t =>
    if n = 0 then some ([], c :: t)
    else if c.utf8Size ≤ n then
      (cutAt? (n - c.utf8Size) t).map fun parts => (c :: parts.1, parts.2)
    else none

theorem cutAt?_append (s t : Text) : cutAt? (size s) (s ++ t) = some (s, t) := by
  induction s with
  | nil => cases t <;> simp [cutAt?]
  | cons c s ih =>
    have := c.utf8Size_pos
    rw [List.cons_append, cutAt?, size_cons, if_neg (by omega), if_pos (by omega),
      Nat.add_sub_cancel_left, ih]
    rfl

theorem eq_append_of_cutAt? {n : ℕ} {t before after : Text}
    (h : cutAt? n t = some (before, after)) : t = before ++ after ∧ size before = n := by
  induction t generalizing n before with
  | nil =>
    rw [cutAt?] at h
    split_ifs at h with hn
    cases h
    exact ⟨rfl, hn.symm⟩
  | cons c t ih =>
    rw [cutAt?] at h
    split_ifs at h with hn hc
    · cases h
      exact ⟨rfl, hn.symm⟩
    · obtain ⟨⟨s, r⟩, hcut, he⟩ := Option.map_eq_some_iff.mp h
      simp only [Prod.mk.injEq] at he
      obtain ⟨rfl, rfl⟩ := he
      obtain ⟨ht, hsize⟩ := ih hcut
      refine ⟨congrArg (c :: ·) ht, ?_⟩
      rw [size_cons, hsize]
      omega

theorem cutAt?_eq_some_iff {n : ℕ} {t before after : Text} :
    cutAt? n t = some (before, after) ↔ t = before ++ after ∧ size before = n := by
  refine ⟨eq_append_of_cutAt?, ?_⟩
  rintro ⟨rfl, rfl⟩
  exact cutAt?_append before after

/-! ## Slices -/

/-- The text between two offsets, if they are in order and characters end at
both of them. -/
def slice? (start stop : ℕ) (t : Text) : Option Text :=
  if start ≤ stop then
    match cutAt? start t with
    | some (_, rest) => (cutAt? (stop - start) rest).map Prod.fst
    | none => none
  else none

theorem slice?_append (before s after : Text) :
    slice? (size before) (size before + size s) (before ++ s ++ after) = some s := by
  rw [slice?, if_pos (Nat.le_add_right _ _), List.append_assoc, cutAt?_append]
  simp only [Nat.add_sub_cancel_left]
  rw [cutAt?_append, Option.map_some]

/-- The slice between two offsets has as many bytes before it and up to its
end as the offsets say. -/
theorem slice?_eq_some_iff {start stop : ℕ} {t s : Text} :
    slice? start stop t = some s ↔
      ∃ before after, t = before ++ s ++ after ∧ size before = start ∧
        size before + size s = stop := by
  constructor
  · intro h
    rw [slice?] at h
    split_ifs at h with hle
    split at h
    · next before rest hcut =>
      obtain ⟨⟨s', after⟩, hcut', rfl⟩ := Option.map_eq_some_iff.mp h
      obtain ⟨rfl, hbefore⟩ := eq_append_of_cutAt? hcut
      obtain ⟨rfl, hs⟩ := eq_append_of_cutAt? hcut'
      refine ⟨before, after, (List.append_assoc _ _ _).symm, hbefore, ?_⟩
      simp only
      omega
    · cases h
  · rintro ⟨before, after, rfl, rfl, rfl⟩
    exact slice?_append before s after

end FormLetter.Text
