import FormLetter.Proofs.NameCase
import FormLetter.Text.Blank
import Mathlib.Data.Nat.Bitwise

/-!
# Full lower case

Lower case of all of Unicode, with the final sigma and the character that
becomes two. The simple mapping is a table of code point ranges; that it never
leads into itself, to a capital of ASCII or to a character that divides a
recipient line is checked on bit masks of code points.

Specification: `IsLower` says of a character that lower case leaves it as it
is, and `IsLowerImage` what it may turn a character into.

Results:

* `exists_lowerImage`: every character is replaced by such an image, whatever
  stands around it.
* `lower_lower`: lower case of lower case changes nothing.
* `mem_of_mem_lower`: lower case brings no blanks, bars and equals signs in.
* `lower_asciiLower`: the case of the letters of ASCII makes no difference.
-/

namespace FormLetter.Text

/-! ## Specification -/

/-- A character that lower case leaves as it is. -/
structure IsLower (c : Char) : Prop where
  ne_sigma : c ≠ 'Σ'
  lowerChar_eq : lowerChar c = [c]

/-- The characters that divide a recipient line or are cut off its parts. -/
def isDivider (c : Char) : Bool := isBlank c || c == '|' || c == '='

/-- What lower case may turn a character into. -/
structure IsLowerImage (c : Char) (image : Text) : Prop where
  ne_nil : image ≠ []
  isLower : ∀ d ∈ image, IsLower d
  eq_of_isDivider : ∀ d ∈ image, isDivider d = true → d = c

/-! ## Code points as bits -/

/-- The number with a bit at each of some places. -/
def mask (places : List ℕ) : ℕ := places.foldr (fun n m => m ||| 2 ^ n) 0

theorem testBit_mask (places : List ℕ) (n : ℕ) : (mask places).testBit n = decide (n ∈ places) := by
  induction places with
  | nil => simp [mask]
  | cons k places ih =>
    rw [mask, List.foldr_cons, Nat.testBit_lor, ← mask, ih, Nat.testBit_two_pow]
    by_cases h : k = n
    · simp [h]
    · simp [h, Ne.symm h]

theorem notMem_of_land_mask {ms ns : List ℕ} (h : mask ms &&& mask ns = 0) {n : ℕ} (hm : n ∈ ms) :
    n ∉ ns := by
  intro hn
  have hbit := Nat.testBit_land (mask ms) (mask ns) n
  rw [h, Nat.zero_testBit, testBit_mask, testBit_mask] at hbit
  simp [hm, hn] at hbit

/-! ## The table -/

/-- The code points that a range maps. -/
def CaseRange.codes (r : CaseRange) : List ℕ :=
  (List.range ((r.last - r.first) / r.step + 1)).map fun i => r.first + i * r.step

theorem CaseRange.mem_codes_of_covers {r : CaseRange} {n : ℕ} (h : r.covers n = true) :
    n ∈ r.codes := by
  simp only [covers, Bool.and_eq_true, decide_eq_true_eq, beq_iff_eq] at h
  obtain ⟨⟨hfirst, hlast⟩, hstep⟩ := h
  have hle : (n - r.first) / r.step ≤ (r.last - r.first) / r.step :=
    Nat.div_le_div_right (Nat.sub_le_sub_right hlast r.first)
  have hmul : (n - r.first) / r.step * r.step = n - r.first :=
    Nat.div_mul_cancel (Nat.dvd_of_mod_eq_zero hstep)
  refine List.mem_map.mpr ⟨(n - r.first) / r.step, List.mem_range.mpr (by omega), by omega⟩

/-- The code points that the table maps. -/
def mappedCodes : List ℕ := lowerRanges.flatMap CaseRange.codes

/-- The code points of the characters that have a lower case of their own: a
capital of ASCII, the dotted `İ`, a sigma, and what the table maps. -/
def capitalCodes : List ℕ := List.range' 0x41 26 ++ [0x130, 0x3A3] ++ mappedCodes

/-- The code points that lower case leads to: the two of `İ`, both sigmas, and
those of the table. -/
def imageCodes : List ℕ :=
  [0x69, 0x307, 0x3C2, 0x3C3] ++ lowerRanges.flatMap fun r => r.codes.map r.apply

/-- The code points of the characters that divide lines. -/
def dividerCodes : List ℕ :=
  List.range' 0x09 5 ++ [0x20, 0x85, 0xA0, 0x1680] ++ List.range' 0x2000 11 ++
    [0x2028, 0x2029, 0x202F, 0x205F, 0x3000, 0x7C, 0x3D]

theorem land_mask_imageCodes : mask imageCodes &&& mask (capitalCodes ++ dividerCodes) = 0 := by
  decide +kernel

theorem isValidChar_of_mem_imageCodes : ∀ n ∈ imageCodes, n.isValidChar := by decide +kernel

theorem mapCode_of_notMem {n : ℕ} (h : n ∉ mappedCodes) : mapCode lowerRanges n = n := by
  have hnone : lowerRanges.find? (·.covers n) = none := by
    refine List.find?_eq_none.mpr fun r hr hcovers => h ?_
    exact List.mem_flatMap.mpr ⟨r, hr, CaseRange.mem_codes_of_covers hcovers⟩
  rw [mapCode, hnone]

/-- A table keeps a code point, or leads to an image of one of its ranges. -/
theorem mapCode_eq_self_or_mem_images (ranges : List CaseRange) (n : ℕ) :
    mapCode ranges n = n ∨ mapCode ranges n ∈ ranges.flatMap fun r => r.codes.map r.apply := by
  rw [mapCode]
  cases hfind : ranges.find? (·.covers n) with
  | none => exact Or.inl rfl
  | some r =>
    have hcodes : n ∈ r.codes := r.mem_codes_of_covers (by simpa using List.find?_some hfind)
    have himage : r.apply n ∈ r.codes.map r.apply := List.mem_map_of_mem hcodes
    exact Or.inr (List.mem_flatMap.mpr ⟨r, List.mem_of_find?_eq_some hfind, himage⟩)

theorem mapCode_eq_self_or_mem (n : ℕ) :
    mapCode lowerRanges n = n ∨ mapCode lowerRanges n ∈ imageCodes :=
  (mapCode_eq_self_or_mem_images lowerRanges n).imp_right (List.mem_append_right _)

/-! ## Characters -/

theorem toNat_mem_dividerCodes {c : Char} (h : isDivider c = true) : c.toNat ∈ dividerCodes := by
  have hbar : c = '|' ↔ c.toNat = 0x7C := Char.toNat_inj.symm
  have hequals : c = '=' ↔ c.toNat = 0x3D := Char.toNat_inj.symm
  simp only [isDivider, isBlank, Bool.or_eq_true, Bool.and_eq_true, decide_eq_true_eq,
    beq_iff_eq, hbar, hequals] at h
  simp only [dividerCodes, List.mem_append, List.mem_range'_1, List.mem_cons, List.not_mem_nil,
    or_false]
  omega

theorem toLower_eq_self {c : Char} (h : ¬(65 ≤ c.toNat ∧ c.toNat ≤ 90)) : c.toLower = c := by
  rw [← Char.toNat_inj, toNat_toLower, if_neg h]

/-- A character without a lower case of its own is in lower case. -/
theorem isLower_of_notMem {c : Char} (h : c.toNat ∉ capitalCodes) : IsLower c := by
  simp only [capitalCodes, List.mem_append, List.mem_range'_1, List.mem_cons,
    List.not_mem_nil, or_false, not_or] at h
  obtain ⟨⟨hcapital, hdotted, hsigma⟩, hmapped⟩ := h
  have hne : c ≠ dottedI := by
    rintro rfl
    exact hdotted rfl
  constructor
  · rintro rfl
    exact hsigma rfl
  · rw [lowerChar, toLower_eq_self (by omega), if_neg hne, mapCode_of_notMem hmapped,
      Char.ofNat_toNat, ite_self]

/-- What lower case leads to is in lower case and divides no lines. -/
theorem isLowerImage_of_mem (c : Char) {image : Text} (hne : image ≠ [])
    (h : ∀ d ∈ image, d.toNat ∈ imageCodes) : IsLowerImage c image := by
  have hmem : ∀ d ∈ image, d.toNat ∉ capitalCodes ∧ d.toNat ∉ dividerCodes := by
    intro d hd
    rw [← not_or, ← List.mem_append]
    exact notMem_of_land_mask land_mask_imageCodes (h d hd)
  refine ⟨hne, fun d hd => isLower_of_notMem (hmem d hd).1, fun d hd hdivider => ?_⟩
  exact absurd (toNat_mem_dividerCodes hdivider) (hmem d hd).2

theorem isLowerImage_of_special (c : Char) {image : Text} (hne : image ≠ [])
    (h : ∀ d ∈ image, d ∈ ['i', '\u0307', 'ς', 'σ']) : IsLowerImage c image := by
  have hcodes : ['i', '\u0307', 'ς', 'σ'].map Char.toNat = [0x69, 0x307, 0x3C2, 0x3C3] := rfl
  refine isLowerImage_of_mem c hne fun d hd => List.mem_append_left _ ?_
  rw [← hcodes]
  exact List.mem_map_of_mem (h d hd)

/-- A character that is kept. -/
theorem isLowerImage_self {c : Char} (h : IsLower c) : IsLowerImage c [c] where
  ne_nil := List.cons_ne_nil _ _
  isLower d hd := by rwa [List.mem_singleton.mp hd]
  eq_of_isDivider d hd _ := List.mem_singleton.mp hd

theorem isLowerImage_toLower {c : Char} (h : c.toNat < 128) : IsLowerImage c [c.toLower] := by
  have hlower := toNat_toLower c
  have hascii : c.toLower.toNat < 128 := by
    split_ifs at hlower <;> omega
  refine ⟨List.cons_ne_nil _ _, ?_, ?_⟩
  · intro d hd
    rw [List.mem_singleton.mp hd]
    refine ⟨?_, by rw [lowerChar_ascii hascii, toLower_toLower]⟩
    intro he
    rw [he] at hascii
    exact absurd hascii (by decide)
  · intro d hd hdivider
    rw [List.mem_singleton.mp hd] at hdivider ⊢
    refine toLower_eq_self fun hcapital => ?_
    have hmem := toNat_mem_dividerCodes hdivider
    rw [hlower, if_pos hcapital] at hmem
    simp only [dividerCodes, List.mem_append, List.mem_range'_1, List.mem_cons, List.not_mem_nil,
      or_false] at hmem
    omega

theorem isLowerImage_lowerChar {c : Char} (h : c ≠ 'Σ') : IsLowerImage c (lowerChar c) := by
  by_cases hascii : c.toNat < 128
  · rw [lowerChar_ascii hascii]
    exact isLowerImage_toLower hascii
  by_cases hdotted : c = dottedI
  · have himage : lowerChar dottedI = ['i', '\u0307'] := rfl
    rw [hdotted, himage]
    exact isLowerImage_of_special _ (List.cons_ne_nil _ _) (by simp)
  have hlower : lowerChar c = [Char.ofNat (mapCode lowerRanges c.toNat)] := by
    rw [lowerChar, if_neg hascii, if_neg hdotted]
  rcases mapCode_eq_self_or_mem c.toNat with hself | hmem
  · rw [hself, Char.ofNat_toNat] at hlower
    rw [hlower]
    exact isLowerImage_self ⟨h, hlower⟩
  · rw [hlower]
    have htoNat :
        (Char.ofNat (mapCode lowerRanges c.toNat)).toNat = mapCode lowerRanges c.toNat := by
      rw [Char.ofNat, dif_pos (isValidChar_of_mem_imageCodes _ hmem)]
      rfl
    refine isLowerImage_of_mem c (List.cons_ne_nil _ _) fun d hd => ?_
    rwa [List.mem_singleton.mp hd, htoNat]

/-! ## Text -/

/-- Every character is replaced by an image of it, whatever stands around
it. -/
theorem exists_lowerImage (before : Text) (c : Char) (rest : Text) :
    ∃ image, IsLowerImage c image ∧
      lowerAfter before (c :: rest) = image ++ lowerAfter (c :: before) rest := by
  by_cases hsigma : c = 'Σ'
  · subst hsigma
    have hsmall : IsLowerImage 'Σ' ['σ'] :=
      isLowerImage_of_special _ (List.cons_ne_nil _ _) (by simp)
    have hfinal : IsLowerImage 'Σ' ['ς'] :=
      isLowerImage_of_special _ (List.cons_ne_nil _ _) (by simp)
    rw [lowerAfter, if_pos rfl]
    split
    · exact ⟨['ς'], hfinal, rfl⟩
    · exact ⟨['σ'], hsmall, rfl⟩
  · rw [lowerAfter, if_neg hsigma]
    exact ⟨lowerChar c, isLowerImage_lowerChar hsigma, rfl⟩

theorem isLower_of_mem_lowerAfter {before t : Text} {d : Char} (h : d ∈ lowerAfter before t) :
    IsLower d := by
  induction t generalizing before with
  | nil => cases h
  | cons c t ih =>
    obtain ⟨image, himage, he⟩ := exists_lowerImage before c t
    rw [he, List.mem_append] at h
    exact h.elim (himage.isLower d) ih

theorem lowerAfter_eq_self {before t : Text} (h : ∀ c ∈ t, IsLower c) :
    lowerAfter before t = t := by
  induction t generalizing before with
  | nil => rfl
  | cons c t ih =>
    obtain ⟨hc, ht⟩ := List.forall_mem_cons.mp h
    rw [lowerAfter, if_neg hc.ne_sigma, hc.lowerChar_eq, ih ht]
    rfl

/-- Lower case of lower case changes nothing. -/
theorem lower_lower (t : Text) : lower (lower t) = lower t :=
  lowerAfter_eq_self fun _ hc => isLower_of_mem_lowerAfter hc

theorem mem_of_mem_lowerAfter {before t : Text} {d : Char} (h : d ∈ lowerAfter before t)
    (hdivider : isDivider d = true) : d ∈ t := by
  induction t generalizing before with
  | nil => cases h
  | cons c t ih =>
    obtain ⟨image, himage, he⟩ := exists_lowerImage before c t
    rw [he, List.mem_append] at h
    rcases h with h | h
    · rw [himage.eq_of_isDivider d h hdivider]
      exact List.mem_cons_self
    · exact List.mem_cons_of_mem c (ih h)

/-- Lower case brings no dividers in. -/
theorem mem_of_mem_lower {t : Text} {d : Char} (h : d ∈ lower t) (hdivider : isDivider d = true) :
    d ∈ t :=
  mem_of_mem_lowerAfter h hdivider

/-! ## The case of ASCII letters -/

theorem toNat_lt_of_toLower_ne {c : Char} (h : c.toLower ≠ c) : c.toNat < 128 := by
  by_contra hascii
  exact h (toLower_eq_self (by omega))

/-- Capitals of ASCII have the case properties of the small letters. -/
theorem case_toLower (c : Char) :
    lowerChar c.toLower = lowerChar c ∧ isCased c.toLower = isCased c ∧
      isCaseIgnorable c.toLower = isCaseIgnorable c ∧ (c.toLower = 'Σ' ↔ c = 'Σ') := by
  have hascii : ∀ n : Fin 128,
      isCased (Char.ofNat n).toLower = isCased (Char.ofNat n) ∧
        isCaseIgnorable (Char.ofNat n).toLower = isCaseIgnorable (Char.ofNat n) ∧
        ((Char.ofNat n).toLower = 'Σ' ↔ Char.ofNat n = 'Σ') := by
    decide +kernel
  by_cases hself : c.toLower = c
  · rw [hself]
    exact ⟨rfl, rfl, rfl, Iff.rfl⟩
  · have hc := toNat_lt_of_toLower_ne hself
    have hlower : lowerChar c.toLower = lowerChar c := by
      have := (isLowerImage_toLower hc).isLower c.toLower (List.mem_singleton_self _)
      rw [this.lowerChar_eq, lowerChar_ascii hc]
    have hcase := hascii ⟨c.toNat, hc⟩
    rw [Char.ofNat_toNat] at hcase
    exact ⟨hlower, hcase⟩

theorem asciiLower_cons (c : Char) (t : Text) : asciiLower (c :: t) = c.toLower :: asciiLower t :=
  rfl

theorem casedFirst_asciiLower (t : Text) : casedFirst (asciiLower t) = casedFirst t := by
  induction t with
  | nil => rfl
  | cons c t ih =>
    obtain ⟨-, hcased, hignorable, -⟩ := case_toLower c
    rw [asciiLower_cons]
    unfold casedFirst at ih ⊢
    rw [List.dropWhile_cons, List.dropWhile_cons, hignorable]
    split_ifs
    · exact ih
    · exact hcased

theorem lowerAfter_asciiLower (before t : Text) :
    lowerAfter (asciiLower before) (asciiLower t) = lowerAfter before t := by
  induction t generalizing before with
  | nil => rfl
  | cons c t ih =>
    obtain ⟨hlower, -, -, hsigma⟩ := case_toLower c
    have hrest := ih (c :: before)
    rw [asciiLower_cons] at hrest
    rw [asciiLower_cons, lowerAfter, lowerAfter, hrest, hlower, casedFirst_asciiLower,
      casedFirst_asciiLower]
    simp only [hsigma]

/-- The case of the letters of ASCII makes no difference. -/
theorem lower_asciiLower (t : Text) : lower (asciiLower t) = lower t :=
  lowerAfter_asciiLower [] t

theorem lower_congr {s t : Text} (h : s.asciiLower = t.asciiLower) : lower s = lower t := by
  rw [← lower_asciiLower s, h, lower_asciiLower]

end FormLetter.Text
