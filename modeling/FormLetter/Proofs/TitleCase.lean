import FormLetter.Proofs.LowerCase

/-!
# Title case

Title case takes the upper case of some characters and the lower case of the
others. Either can be several characters, but one that divides a recipient line
is never among them unless it stood there before.

Results:

* `toNat_toUpper`: upper case of the small letters of ASCII.
* `eq_of_mem_upperChar`, `eq_of_mem_lowerChar`: a divider is the upper and the
  lower case of itself alone.
* `mem_of_mem_titleCase`: title case brings no dividers in.
-/

namespace FormLetter.Text

/-! ## The table -/

/-- The code points that upper case leads to beyond ASCII. -/
def upperImageCodes : List ℕ :=
  expansions.flatMap Prod.snd ++ upperRanges.flatMap fun r => r.codes.map r.apply

theorem land_mask_upperImageCodes : mask upperImageCodes &&& mask dividerCodes = 0 := by
  decide +kernel

/-- A code point that is none of a character stands for the character 0, which
is no divider either. -/
theorem isDivider_ofNat_eq_false {n : ℕ} (h : n ∈ upperImageCodes) :
    isDivider (Char.ofNat n) = false := by
  rw [← Bool.not_eq_true]
  intro hdivider
  have hmem := toNat_mem_dividerCodes hdivider
  by_cases hvalid : n.isValidChar
  · have htoNat : (Char.ofNat n).toNat = n := by
      rw [Char.ofNat, dif_pos hvalid]
      rfl
    rw [htoNat] at hmem
    exact notMem_of_land_mask land_mask_upperImageCodes h hmem
  · have htoNat : (Char.ofNat n).toNat = 0 := by
      rw [Char.ofNat, dif_neg hvalid]
      rfl
    rw [htoNat] at hmem
    exact absurd hmem (by decide)

/-! ## Characters -/

theorem toNat_toUpper (c : Char) :
    c.toUpper.toNat = if 97 ≤ c.toNat ∧ c.toNat ≤ 122 then c.toNat - 32 else c.toNat := by
  have ha : 'a'.val.toNat = 97 := by decide
  have hz : 'z'.val.toNat = 122 := by decide
  have hdiff : ('A'.val - 'a'.val).toNat = 2 ^ 32 - 32 := by decide
  unfold Char.toUpper Char.toNat
  simp only [UInt32.le_iff_toNat_le, ha, hz]
  split_ifs with h
  · rw [UInt32.toNat_add, hdiff]
    omega
  · rfl

theorem eq_of_mem_upperChar {c d : Char} (h : d ∈ upperChar c) (hdivider : isDivider d = true) :
    d = c := by
  by_cases hascii : c.toNat < 128
  · rw [upperChar_ascii hascii, List.mem_singleton] at h
    subst h
    have hmem := toNat_mem_dividerCodes hdivider
    have hupper := toNat_toUpper c
    rw [← Char.toNat_inj]
    split_ifs at hupper with hsmall
    · -- a capital of ASCII is no divider
      simp only [hupper, dividerCodes, List.mem_append, List.mem_range'_1, List.mem_cons,
        List.not_mem_nil, or_false] at hmem
      omega
    · exact hupper
  · rw [upperChar, if_neg hascii] at h
    cases hlookup : expansions.lookup c.toNat with
    | some codes =>
      rw [hlookup] at h
      obtain ⟨n, hn, rfl⟩ := List.mem_map.mp h
      have hentry : (c.toNat, codes) ∈ expansions := by
        obtain ⟨before, after, he, -⟩ := List.lookup_eq_some_iff.mp hlookup
        rw [he]
        exact List.mem_append_right before List.mem_cons_self
      have himage : n ∈ upperImageCodes :=
        List.mem_append_left _ (List.mem_flatMap.mpr ⟨_, hentry, hn⟩)
      exact absurd hdivider (by simp [isDivider_ofNat_eq_false himage])
    | none =>
      rw [hlookup] at h
      obtain rfl := List.mem_singleton.mp h
      rcases mapCode_eq_self_or_mem_images upperRanges c.toNat with hself | himage
      · rw [hself, Char.ofNat_toNat]
      · have hfalse := isDivider_ofNat_eq_false (List.mem_append_right _ himage)
        exact absurd hdivider (by simp [hfalse])

theorem eq_of_mem_lowerChar {c d : Char} (h : d ∈ lowerChar c) (hdivider : isDivider d = true) :
    d = c := by
  by_cases hsigma : c = 'Σ'
  · subst hsigma
    have hsmall : lowerChar 'Σ' = ['σ'] := by decide +kernel
    rw [hsmall, List.mem_singleton] at h
    subst h
    exact absurd hdivider (by decide)
  · exact (isLowerImage_lowerChar hsigma).eq_of_isDivider d h hdivider

/-! ## Text -/

theorem mem_of_mem_titleAfter {inWord : Bool} {t : Text} {d : Char} (h : d ∈ titleAfter inWord t)
    (hdivider : isDivider d = true) : d ∈ t := by
  induction t generalizing inWord with
  | nil => cases h
  | cons c t ih =>
    rw [titleAfter, List.mem_append] at h
    rcases h with h | h
    · have hc : d = c := by
        split_ifs at h
        · exact eq_of_mem_lowerChar h hdivider
        · exact eq_of_mem_upperChar h hdivider
      exact hc ▸ List.mem_cons_self
    · exact List.mem_cons_of_mem c (ih h)

/-- Title case brings no dividers in. -/
theorem mem_of_mem_titleCase {t : Text} {d : Char} (h : d ∈ titleCase t)
    (hdivider : isDivider d = true) : d ∈ t :=
  mem_of_mem_titleAfter h hdivider

end FormLetter.Text
