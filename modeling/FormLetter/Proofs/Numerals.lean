import FormLetter.Text.Basic
import Mathlib.Algebra.Group.Nat.Defs
import Mathlib.Data.Nat.Notation
import Mathlib.Tactic.Common

/-!
# Numerals

Results:

* `head?_ofNat_ne`: a numeral has no needless zero in front.
* `isDigit_of_mem_padded`: a numeral that is filled up with zeros has digits and
  nothing else.
* `length_padded`: it has the width if the number is not too great for it.
* `digitsValue_padded`: its digits denote the number.
-/

namespace FormLetter.Text

theorem isDigit_of_mem_ofNat {n : ℕ} {c : Char} (h : c ∈ ofNat n) : c.isDigit = true :=
  Nat.isDigit_of_mem_toDigits (by decide) (by decide) h

theorem ofNat_ne_nil (n : ℕ) : ofNat n ≠ [] := Nat.toDigits_ne_nil

/-- Only the numeral of zero begins with a zero: the first digit is that of the
number divided by ten as often as it is not below ten. -/
theorem head?_ofNat_ne {n : ℕ} (h : n ≠ 0) : (ofNat n).head? ≠ some '0' := by
  induction n using Nat.strongRecOn with
  | ind n ih =>
    rcases Nat.lt_or_ge n 10 with hlt | hge
    · have hdigit : ∀ d < 10, d ≠ 0 → d.digitChar ≠ '0' := by decide
      rw [ofNat, Nat.toDigits_of_lt_base hlt]
      simpa using hdigit n hlt h
    · have hinit := ih (n / 10) (by omega) (by omega)
      obtain ⟨c, cs, hcs⟩ := List.exists_cons_of_ne_nil (ofNat_ne_nil (n / 10))
      rw [hcs] at hinit
      rw [ofNat, Nat.toDigits_of_base_le (by decide) hge, show Nat.toDigits 10 (n / 10) = c :: cs
        from hcs]
      simpa using hinit

/-- A numeral begins with a digit. -/
theorem ofNat_ne_cons {n : ℕ} {c : Char} {cs : Text} (hc : c.isDigit = false) :
    ofNat n ≠ c :: cs := by
  intro h
  have := isDigit_of_mem_ofNat (n := n) (c := c) (by simp [h])
  simp [hc] at this

theorem ofNat_ne_zero_cons (n : ℕ) (c : Char) (cs : Text) : ofNat n ≠ '0' :: c :: cs := by
  intro h
  by_cases hn : n = 0
  · subst hn
    cases h
  · exact head?_ofNat_ne hn (congrArg List.head? h)

theorem eq_or_isDigit_of_mem_ofInt {n : ℤ} {c : Char} (h : c ∈ ofInt n) :
    c = '-' ∨ c.isDigit = true := by
  unfold ofInt at h
  split_ifs at h
  · exact (List.mem_cons.mp h).imp id isDigit_of_mem_ofNat
  · exact .inr (isDigit_of_mem_ofNat h)

theorem ofInt_ne_nil (n : ℤ) : ofInt n ≠ [] := by
  unfold ofInt
  split_ifs
  · simp
  · exact ofNat_ne_nil _

theorem ofInt_ne_zero_cons (n : ℤ) (c : Char) (cs : Text) : ofInt n ≠ '0' :: c :: cs := by
  unfold ofInt
  split_ifs
  · simp
  · exact ofNat_ne_zero_cons _ c cs

theorem isDigit_of_mem_padded {width n : ℕ} {c : Char} (h : c ∈ padded width n) :
    c.isDigit = true := by
  rw [padded, List.mem_append] at h
  rcases h with h | h
  · rw [List.eq_of_mem_replicate h]
    rfl
  · exact isDigit_of_mem_ofNat h

theorem length_padded {width n : ℕ} (hwidth : 0 < width) (h : n < 10 ^ width) :
    (padded width n).length = width := by
  have hlength : (ofNat n).length ≤ width :=
    (Nat.length_toDigits_le_iff (by decide) hwidth).mpr h
  rw [padded, List.length_append, List.length_replicate]
  exact Nat.sub_add_cancel hlength

theorem digitsValue_eq_ofDigitChars (digits : Text) :
    digitsValue digits = Nat.ofDigitChars 10 digits 0 :=
  rfl

theorem digitsValue_padded (width n : ℕ) : digitsValue (padded width n) = n := by
  rw [digitsValue_eq_ofDigitChars, padded, Nat.ofDigitChars_append,
    Nat.ofDigitChars_replicate_zero, Nat.mul_zero, ofNat, Nat.ofDigitChars_ten_toDigits]

end FormLetter.Text
