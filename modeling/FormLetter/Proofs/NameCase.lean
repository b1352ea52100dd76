import FormLetter.Placeholder
import FormLetter.Text.Case
import Mathlib.Data.Nat.Notation
import Mathlib.Tactic.Common

/-!
# The letter case of names

Names are looked up under their full lower case and reported under their ASCII
lower case. The two agree on ASCII text, and the characters of a name are
ASCII.

Results:

* `lower_eq_asciiLower`: on ASCII text both lower cases agree.
* `isName_asciiLower`: letter case does not matter for whether a text is a
  name.
* `lower_name`, `lower_key`: a placeholder is looked up under its key, and so
  is the key itself.
-/

namespace FormLetter

/-! ## Letters -/

namespace Text

theorem toNat_toLower (c : Char) :
    c.toLower.toNat = if 65 ≤ c.toNat ∧ c.toNat ≤ 90 then c.toNat + 32 else c.toNat := by
  have hA : 'A'.val.toNat = 65 := by decide
  have hZ : 'Z'.val.toNat = 90 := by decide
  have hdiff : ('a'.val - 'A'.val).toNat = 32 := by decide
  unfold Char.toLower Char.toNat
  simp only [ge_iff_le, UInt32.le_iff_toNat_le, hA, hZ]
  split_ifs with h
  · rw [UInt32.toNat_add, hdiff, Nat.mod_eq_of_lt (by omega)]
  · rfl

theorem toLower_toLower (c : Char) : c.toLower.toLower = c.toLower := by
  rw [← Char.toNat_inj, toNat_toLower c.toLower, toNat_toLower c]
  split_ifs <;> omega

theorem asciiLower_asciiLower (t : Text) : t.asciiLower.asciiLower = t.asciiLower := by
  unfold asciiLower
  rw [List.map_map]
  exact List.map_congr_left fun c _ => toLower_toLower c

/-- No character of an ASCII text looks at its neighbours. -/
theorem lowerAfter_eq_asciiLower {t : Text} (h : ∀ c ∈ t, c.toNat < 128) (before : Text) :
    lowerAfter before t = asciiLower t := by
  induction t generalizing before with
  | nil => rfl
  | cons c t ih =>
    have hc : c.toNat < 128 := h c (List.mem_cons_self ..)
    have hsigma : c ≠ 'Σ' := by
      rintro rfl
      exact absurd hc (by decide)
    rw [lowerAfter, ih (fun d hd => h d (List.mem_cons_of_mem _ hd))]
    simp only [if_neg hsigma, lowerChar_ascii hc]
    rfl

theorem lower_eq_asciiLower {t : Text} (h : ∀ c ∈ t, c.toNat < 128) : lower t = asciiLower t :=
  lowerAfter_eq_asciiLower h []

end Text

/-! ## Names -/

theorem isNameChar_iff {c : Char} :
    isNameChar c = true ↔
      65 ≤ c.toNat ∧ c.toNat ≤ 90 ∨ 97 ≤ c.toNat ∧ c.toNat ≤ 122 ∨
        48 ≤ c.toNat ∧ c.toNat ≤ 57 ∨ c.toNat = 95 ∨ c.toNat = 46 := by
  have h95 : c = '_' ↔ c.toNat = 95 := Char.toNat_inj.symm
  have h46 : c = '.' ↔ c.toNat = 46 := Char.toNat_inj.symm
  unfold isNameChar Char.isAlphanum Char.isAlpha Char.isUpper Char.isLower Char.isDigit
  simp only [Bool.or_eq_true, Bool.and_eq_true, decide_eq_true_eq, beq_iff_eq,
    UInt32.le_iff_toNat_le, ge_iff_le, h95, h46, or_assoc]
  rfl

theorem toNat_lt_of_isNameChar {c : Char} (h : isNameChar c = true) : c.toNat < 128 := by
  rw [isNameChar_iff] at h
  omega

theorem isNameChar_toLower (c : Char) : isNameChar c.toLower = isNameChar c := by
  rw [Bool.eq_iff_iff, isNameChar_iff, isNameChar_iff, Text.toNat_toLower]
  split_ifs <;> omega

theorem isName_asciiLower (t : Text) : isName t.asciiLower = isName t := by
  have hchars : isNameChar ∘ Char.toLower = isNameChar := funext isNameChar_toLower
  unfold isName Text.asciiLower
  rw [List.isEmpty_map, List.all_map, hchars]

theorem lower_eq_asciiLower_of_isName {t : Text} (h : isName t = true) :
    t.lower = t.asciiLower := by
  rw [isName, Bool.and_eq_true] at h
  exact Text.lower_eq_asciiLower fun c hc =>
    toNat_lt_of_isNameChar (List.all_eq_true.mp h.2 c hc)

namespace Placeholder

/-- A placeholder is looked up under the key it is reported by. -/
theorem lower_name {p : Placeholder} (h : isName p.name = true) : p.name.lower = p.key :=
  lower_eq_asciiLower_of_isName h

theorem isName_key {p : Placeholder} (h : isName p.name = true) : isName p.key = true := by
  rwa [key, isName_asciiLower]

/-- The key is looked up under itself. -/
theorem lower_key {p : Placeholder} (h : isName p.name = true) : p.key.lower = p.key := by
  rw [lower_eq_asciiLower_of_isName (isName_key h), key, Text.asciiLower_asciiLower]

end Placeholder

end FormLetter
