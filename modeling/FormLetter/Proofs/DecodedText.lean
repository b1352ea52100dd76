import FormLetter.Proofs.ByteOrder
import FormLetter.Proofs.ByteReader
import FormLetter.Text.Utf8

/-!
# Texts and their bytes

Decoding undoes encoding, and takes nothing else: `ofUtf8? bytes = some t` if and only if `bytes`
are the UTF-8 bytes of `t`. In particular a character has no second spelling with more bytes, and
bytes that belong to no character make the whole no text.

* `decodeChar?_utf8EncodeChar`: the character at the start of some bytes is read.
* `eq_append_of_decodeChar?`: what has been read stands there, in its only spelling.
* `ofUtf8?_eq_some_iff`: the same for whole texts.
-/

namespace FormLetter.Text

/-! ## One character -/

theorem codePoint?_eq_some_iff {least n : ℕ} {c : Char} :
    codePoint? least n = some c ↔ c.toNat = n ∧ least ≤ n := by
  unfold codePoint?
  constructor
  · intro h
    by_cases hvalid : n.isValidChar
    · rw [dif_pos hvalid, Option.ite_none_right_eq_some] at h
      obtain ⟨hleast, hc⟩ := h
      cases hc
      exact ⟨rfl, hleast⟩
    · rw [dif_neg hvalid] at h
      cases h
  · rintro ⟨rfl, hleast⟩
    have hvalid : c.toNat.isValidChar := c.valid
    rw [dif_pos hvalid, if_pos hleast]
    exact congrArg some (Char.toNat_inj.mp rfl)

theorem continuation?_eq_some_iff {b : UInt8} {n : ℕ} :
    continuation? b = some n ↔ b.toNat = n + 128 ∧ n < 64 := by
  simp only [continuation?, Bool.and_eq_true, decide_eq_true_eq, UInt8.le_iff_toNat_le,
    UInt8.lt_iff_toNat_lt, UInt8.reduceToNat]
  split_ifs with h
  · simp only [Option.some.injEq]; omega
  · simp; omega

theorem continuation?_ofNat {n : ℕ} (h : n < 64) :
    continuation? (UInt8.ofNat (n + 128)) = some n := by
  rw [continuation?_eq_some_iff, UInt8.toNat_ofNat']
  omega

/-- The character at the start of some bytes is read, whatever follows it. -/
theorem decodeChar?_utf8EncodeChar (c : Char) (rest : List UInt8) :
    decodeChar? (String.utf8EncodeChar c ++ rest) = some (c, rest) := by
  have hc : c.toNat < 0x110000 := toNat_val_lt c
  have hval : c.val.toNat = c.toNat := rfl
  simp only [String.utf8EncodeChar, hval]
  -- one case for each number of bytes
  split_ifs with h1 h2 h3 <;>
    simp only [List.cons_append, List.nil_append, decodeChar?, UInt8.lt_iff_toNat_lt,
      UInt8.toNat_ofNat', UInt8.reduceToNat, Nat.reducePow]
  · rw [if_pos (by omega), Nat.mod_eq_of_lt (by omega),
      codePoint?_eq_some_iff.mpr ⟨rfl, Nat.zero_le _⟩]
    rfl
  · have hcode : codePoint? 0x80 ((c.toNat / 64 % 32 + 192 - 0xC0) * 64 + c.toNat % 64) = some c :=
      codePoint?_eq_some_iff.mpr (by omega)
    rw [if_neg (by omega), if_neg (by omega), if_pos (by omega),
      Nat.mod_eq_of_lt (show c.toNat / 64 % 32 + 192 < 256 by omega),
      continuation?_ofNat (by omega)]
    simp only [Option.bind_eq_bind, Option.bind_some, hcode, Option.map_some]
  · have hcode : codePoint? 0x800 (((c.toNat / 4096 % 16 + 224 - 0xE0) * 64 +
        c.toNat / 64 % 64) * 64 + c.toNat % 64) = some c :=
      codePoint?_eq_some_iff.mpr (by omega)
    rw [if_neg (by omega), if_neg (by omega), if_neg (by omega), if_pos (by omega),
      Nat.mod_eq_of_lt (show c.toNat / 4096 % 16 + 224 < 256 by omega),
      continuation?_ofNat (by omega), continuation?_ofNat (by omega)]
    simp only [Option.bind_eq_bind, Option.bind_some, hcode, Option.map_some]
  · have hcode : codePoint? 0x10000 ((((c.toNat / 262144 % 8 + 240 - 0xF0) * 64 +
        c.toNat / 4096 % 64) * 64 + c.toNat / 64 % 64) * 64 + c.toNat % 64) = some c :=
      codePoint?_eq_some_iff.mpr (by omega)
    rw [if_neg (by omega), if_neg (by omega), if_neg (by omega), if_neg (by omega),
      if_pos (by omega), Nat.mod_eq_of_lt (show c.toNat / 262144 % 8 + 240 < 256 by omega),
      continuation?_ofNat (by omega),
      continuation?_ofNat (by omega), continuation?_ofNat (by omega)]
    simp only [Option.bind_eq_bind, Option.bind_some, hcode, Option.map_some]

/-- Numbers below 256 are the bytes that they count. -/
theorem ofNat_eq_of_toNat_eq {n : ℕ} {b : UInt8} (h : b.toNat = n) : UInt8.ofNat n = b := by
  subst h
  exact UInt8.ofNat_toNat

/-- What has been read stands at the start of the bytes, in its only spelling. -/
theorem eq_append_of_decodeChar? {bytes rest : List UInt8} {c : Char}
    (h : decodeChar? bytes = some (c, rest)) : bytes = String.utf8EncodeChar c ++ rest := by
  have hval : c.val.toNat = c.toNat := rfl
  unfold decodeChar? at h
  simp only [String.utf8EncodeChar, hval]
  split at h
  · cases h
  rename_i a tail
  simp only [UInt8.lt_iff_toNat_lt, UInt8.reduceToNat] at h
  split_ifs at h with h1 h2 h3 h4 h5
  · -- one byte
    simp only [Option.map_eq_some_iff, codePoint?_eq_some_iff, Prod.mk.injEq] at h
    obtain ⟨_, ⟨ha, -⟩, rfl, rfl⟩ := h
    rw [if_pos (by omega), ofNat_eq_of_toNat_eq ha.symm, List.singleton_append]
  · -- two bytes
    split at h
    · rename_i b tail
      simp only [Option.bind_eq_bind, Option.bind_eq_some_iff, Option.map_eq_some_iff,
        continuation?_eq_some_iff, codePoint?_eq_some_iff, Prod.mk.injEq] at h
      obtain ⟨nb, ⟨hb, hnb⟩, _, ⟨hc, hleast⟩, rfl, rfl⟩ := h
      rw [if_neg (by omega), if_pos (by omega), ofNat_eq_of_toNat_eq (b := a) (by omega),
        ofNat_eq_of_toNat_eq (b := b) (by omega)]
      rfl
    · cases h
  · -- three bytes
    split at h
    · rename_i b c tail
      simp only [Option.bind_eq_bind, Option.bind_eq_some_iff, Option.map_eq_some_iff,
        continuation?_eq_some_iff, codePoint?_eq_some_iff, Prod.mk.injEq] at h
      obtain ⟨nb, ⟨hb, hnb⟩, nc, ⟨hc, hnc⟩, _, ⟨hcode, hleast⟩, rfl, rfl⟩ := h
      rw [if_neg (by omega), if_neg (by omega), if_pos (by omega),
        ofNat_eq_of_toNat_eq (b := a) (by omega), ofNat_eq_of_toNat_eq (b := b) (by omega),
        ofNat_eq_of_toNat_eq (b := c) (by omega)]
      rfl
    · cases h
  · -- four bytes
    split at h
    · rename_i b c d tail
      simp only [Option.bind_eq_bind, Option.bind_eq_some_iff, Option.map_eq_some_iff,
        continuation?_eq_some_iff, codePoint?_eq_some_iff, Prod.mk.injEq] at h
      obtain ⟨nb, ⟨hb, hnb⟩, nc, ⟨hc, hnc⟩, nd, ⟨hd, hnd⟩, _, ⟨hcode, hleast⟩, rfl, rfl⟩ := h
      rw [if_neg (by omega), if_neg (by omega), if_neg (by omega),
        ofNat_eq_of_toNat_eq (b := a) (by omega), ofNat_eq_of_toNat_eq (b := b) (by omega),
        ofNat_eq_of_toNat_eq (b := c) (by omega), ofNat_eq_of_toNat_eq (b := d) (by omega)]
      rfl
    · cases h

/-! ## Texts -/

theorem utf8_eq_nil_iff {t : Text} : utf8 t = [] ↔ t = [] := by
  rw [← List.length_eq_zero_iff, length_utf8]
  cases t with
  | nil => simp
  | cons c t => have := c.utf8Size_pos; simp; omega

theorem length_lt_length_utf8EncodeChar_append (c : Char) (rest : List UInt8) :
    rest.length < (String.utf8EncodeChar c ++ rest).length := by
  have := c.utf8Size_pos
  simp; omega

theorem decodeAfter_nil (before : Text) (fuel : ℕ) :
    decodeAfter before fuel [] = some before.reverse := by
  cases fuel <;> rfl

/-- Each round takes the bytes of one character, so there is a round for every
character if there is one for every byte. -/
theorem decodeAfter_eq_some_iff {before t : Text} {fuel : ℕ} {bytes : List UInt8}
    (hfuel : bytes.length ≤ fuel) :
    decodeAfter before fuel bytes = some t ↔ ∃ s, utf8 s = bytes ∧ t = before.reverse ++ s := by
  induction fuel generalizing before bytes with
  | zero =>
    obtain rfl := List.length_eq_zero_iff.mp (Nat.le_zero.mp hfuel)
    simp [decodeAfter_nil, utf8_eq_nil_iff, eq_comm (b := t)]
  | succ fuel ih =>
    cases bytes with
    | nil => simp [decodeAfter_nil, utf8_eq_nil_iff, eq_comm (b := t)]
    | cons b bytes =>
      constructor
      · intro h
        unfold decodeAfter at h
        split at h
        · rename_i c rest hread
          have hbytes := eq_append_of_decodeChar? hread
          have hlt := length_lt_length_utf8EncodeChar_append c rest
          rw [hbytes] at hfuel ⊢
          obtain ⟨s, rfl, rfl⟩ := (ih (by omega)).mp h
          exact ⟨c :: s, rfl, by simp⟩
        · cases h
      · rintro ⟨s, hbytes, rfl⟩
        cases s with
        | nil => cases hbytes
        | cons c s =>
          have hlt := length_lt_length_utf8EncodeChar_append c (utf8 s)
          rw [← hbytes] at hfuel ⊢
          change (String.utf8EncodeChar c ++ utf8 s).length ≤ fuel + 1 at hfuel
          have hread := decodeChar?_utf8EncodeChar c (utf8 s)
          rw [decodeAfter, show utf8 (c :: s) = String.utf8EncodeChar c ++ utf8 s from rfl, hread]
          · exact (ih (by omega)).mpr ⟨s, rfl, by simp⟩
          · simp [utf8]

/-- Bytes decode to a text if and only if they are the bytes of the text. -/
theorem ofUtf8?_eq_some_iff {bytes : List UInt8} {t : Text} :
    ofUtf8? bytes = some t ↔ bytes = utf8 t := by
  rw [ofUtf8?, decodeAfter_eq_some_iff (Nat.le_refl _)]
  simp [eq_comm]

@[simp] theorem ofUtf8?_utf8 (t : Text) : ofUtf8? (utf8 t) = some t :=
  ofUtf8?_eq_some_iff.mpr rfl

end FormLetter.Text
