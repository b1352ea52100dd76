import FormLetter.Names
import Mathlib.Data.Nat.Notation
import Mathlib.Tactic.Common

/-!
# The order of texts is the order of their bytes

Sets of names are kept in the order of their characters. Comparing the UTF-8
bytes gives the same order: an encoding is not longer than that of a greater
character, its first byte tells encodings of different lengths apart, and the
groups of six bits do the rest.

Results:

* `utf8_lt_utf8_iff`: the bytes of a text come before those of another exactly
  when the text does.
* `pairwise_utf8`: a list of increasing texts has increasing bytes.
-/

namespace FormLetter.Text

/-! ## Characters -/

/-- Of two numbers, the smaller one has the smaller quotient, or the same
quotient and the smaller remainder. -/
theorem div_mod_lt (k : ℕ) {m n : ℕ} (h : m < n) :
    m / k < n / k ∨ m / k = n / k ∧ m % k < n % k := by
  rcases Nat.lt_or_ge (m / k) (n / k) with hlt | hge
  · exact Or.inl hlt
  · have heq : m / k = n / k := Nat.le_antisymm (Nat.div_le_div_right (Nat.le_of_lt h)) hge
    refine Or.inr ⟨heq, ?_⟩
    have hm := Nat.div_add_mod m k
    have hn := Nat.div_add_mod n k
    rw [heq] at hm
    omega

theorem toNat_val_lt (c : Char) : c.val.toNat < 0x110000 := by
  have := c.valid
  unfold UInt32.isValidChar Nat.isValidChar at this
  omega

/-- Whatever follows, the bytes of the smaller character come first. -/
theorem utf8EncodeChar_append_lt {c d : Char} (h : c < d) (x y : List UInt8) :
    String.utf8EncodeChar c ++ x < String.utf8EncodeChar d ++ y := by
  have hv : c.val.toNat < d.val.toNat := h
  have hd := toNat_val_lt d
  have h3 := div_mod_lt 64 hv
  have h2 (h : c.val.toNat / 64 < d.val.toNat / 64) := div_mod_lt 64 h
  have h1 (h : c.val.toNat / 64 / 64 < d.val.toNat / 64 / 64) := div_mod_lt 64 h
  simp only [Nat.div_div_eq_div_mul, Nat.reduceMul] at h1 h2
  simp only [String.utf8EncodeChar]
  generalize c.val.toNat = m at *
  generalize d.val.toNat = n at *
  -- one case for the lengths of the two encodings
  split_ifs <;>
    simp only [List.cons_append, List.nil_append, List.cons_lt_cons_iff,
      UInt8.lt_iff_toNat_lt, ← UInt8.toNat_inj, UInt8.toNat_ofNat'] <;>
    simp (disch := omega) only [Nat.mod_eq_of_lt, Nat.reducePow, Nat.add_lt_add_iff_right,
      Nat.add_right_cancel_iff] <;>
    omega

/-! ## Texts -/

theorem utf8_lt_utf8 {s t : Text} (h : s < t) : utf8 s < utf8 t := by
  induction s generalizing t with
  | nil =>
    cases t with
    | nil => exact absurd h (List.lt_irrefl _)
    | cons d t =>
      cases hd : String.utf8EncodeChar d with
      | nil => exact absurd hd String.utf8EncodeChar_ne_nil
      | cons b bytes => simp [utf8, hd]
  | cons c s ih =>
    cases t with
    | nil => exact absurd h (List.not_lt_nil _)
    | cons d t =>
      rcases List.cons_lt_cons_iff.mp h with hlt | ⟨rfl, hlt⟩
      · exact utf8EncodeChar_append_lt hlt _ _
      · exact List.append_left_lt (ih hlt)

/-- Texts are ordered by their UTF-8 bytes. -/
theorem utf8_lt_utf8_iff {s t : Text} : utf8 s < utf8 t ↔ s < t := by
  refine ⟨fun h => ?_, utf8_lt_utf8⟩
  by_contra hst
  by_cases he : s = t
  · subst he
    exact List.lt_irrefl _ h
  · have hts : t < s := Names.lt_of_not_lt_of_ne hst he
    exact List.lt_irrefl _ (List.lt_trans h (utf8_lt_utf8 hts))

theorem pairwise_utf8 {names : List Text} (h : names.Pairwise (· < ·)) :
    (names.map utf8).Pairwise (· < ·) :=
  List.pairwise_map.mpr (h.imp utf8_lt_utf8)

end FormLetter.Text
