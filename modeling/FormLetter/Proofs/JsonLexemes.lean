import FormLetter.Json.Lexeme
import FormLetter.Json.Print
import FormLetter.Proofs.DecodedText
import FormLetter.Proofs.Numerals
import FormLetter.Proofs.Trimming

/-!
# Written lexemes of JSON

Each reader of a lexeme takes what the writer puts out, and leaves what follows.

* `skipBlanks_append`: blanks are left out, however many there are.
* `numeral?_ofInt`, `value?_partsOf`: an integer that fits into 64 bits is read from its decimal
  numeral.
* `string?_stringText`: a text is read from its string, in which quotes, backslashes and control
  characters are escaped.
* `skipString?_stringText`: a string that nobody asks for is left out as a whole.
-/

namespace FormLetter.Json

open Text

/-! ## Blanks and words -/

/-- A space, a line feed, a carriage return or a tab. -/
def isBlankByte (b : UInt8) : Bool := b == 0x20 || b == 0x0A || b == 0x0D || b == 0x09

theorem skipBlanks_append {blanks : List UInt8} (h : ∀ b ∈ blanks, isBlankByte b = true)
    (rest : List UInt8) : skipBlanks (blanks ++ rest) = skipBlanks rest :=
  List.dropWhile_append_of_pos h

theorem skipBlanks_cons {b : UInt8} (h : isBlankByte b = false) (rest : List UInt8) :
    skipBlanks (b :: rest) = b :: rest :=
  List.dropWhile_cons_of_neg (Bool.eq_false_iff.mp h)

theorem word?_append (word : String) (rest : List UInt8) :
    word? word (utf8 word.toList ++ rest) = some rest := by
  have hprefix : (utf8 word.toList).isPrefixOf (utf8 word.toList ++ rest) = true :=
    List.isPrefixOf_iff_prefix.mpr (List.prefix_append _ _)
  simp [word?, hprefix]

/-! ## Numerals -/

/-- What may follow a numeral that is complete: no digit, no point and no
exponent. -/
def EndsNumeral (rest : List UInt8) : Prop :=
  ∀ b ∈ rest.head?, isDigitByte b = false ∧ b ≠ 0x2E ∧ b ≠ 0x65 ∧ b ≠ 0x45

/-- The digits of a numeral as numbers. -/
def digitsOf (n : ℕ) : List ℕ := (ofNat n).map fun c => c.toNat - 0x30

theorem toNat_of_isDigit {c : Char} (h : c.isDigit = true) : 48 ≤ c.toNat ∧ c.toNat ≤ 57 := by
  rw [Char.isDigit, Bool.and_eq_true, decide_eq_true_eq, decide_eq_true_eq] at h
  exact ⟨UInt32.le_iff_toNat_le.mp h.1, UInt32.le_iff_toNat_le.mp h.2⟩

theorem utf8_of_ascii {t : Text} (h : ∀ c ∈ t, c.toNat < 128) :
    utf8 t = t.map fun c => UInt8.ofNat c.toNat := by
  induction t with
  | nil => rfl
  | cons c t ih =>
    rw [List.forall_mem_cons] at h
    change String.utf8EncodeChar c ++ utf8 t = _
    rw [utf8EncodeChar_ascii h.1, ih h.2, List.map_cons, List.singleton_append]

theorem utf8_ofNat (n : ℕ) : utf8 (ofNat n) = (ofNat n).map fun c => UInt8.ofNat c.toNat := by
  apply utf8_of_ascii
  intro c hc
  have := toNat_of_isDigit (isDigit_of_mem_ofNat hc)
  omega

theorem digits_append (n : ℕ) {rest : List UInt8} (h : ∀ b ∈ rest.head?, isDigitByte b = false) :
    digits (utf8 (ofNat n) ++ rest) = (digitsOf n, rest) := by
  have hdigit : ∀ b ∈ utf8 (ofNat n), isDigitByte b = true := by
    rw [utf8_ofNat, List.forall_mem_map]
    intro c hc
    have := toNat_of_isDigit (isDigit_of_mem_ofNat hc)
    simp [isDigitByte, UInt8.le_iff_toNat_le]
    omega
  obtain ⟨htake, hdrop⟩ := takeWhile_dropWhile_append hdigit h
  rw [digits, htake, hdrop, utf8_ofNat, List.map_map]
  refine Prod.ext_iff.mpr ⟨List.map_congr_left fun c hc => ?_, rfl⟩
  have := toNat_of_isDigit (isDigit_of_mem_ofNat hc)
  simp
  omega

theorem digitsOf_ne_nil (n : ℕ) : digitsOf n ≠ [] := by
  simp [digitsOf, ofNat_ne_nil]

/-- The digits have no needless zero in front. -/
theorem digitsOf_eq_zero_cons {n : ℕ} {ds : List ℕ} (h : digitsOf n = 0 :: ds) : ds = [] := by
  by_cases hn : n = 0
  · subst hn
    cases h
    rfl
  · have hhead := head?_ofNat_ne hn
    obtain ⟨c, cs, hcs⟩ := List.exists_cons_of_ne_nil (ofNat_ne_nil n)
    have hdigit := toNat_of_isDigit (isDigit_of_mem_ofNat (n := n) (c := c) (by simp [hcs]))
    rw [digitsOf, hcs, List.map_cons, List.cons.injEq] at h
    have hc : c = '0' := Char.toNat_inj.mp (by change c.toNat = 48; omega)
    simp [hcs, hc] at hhead

theorem places?_of_endsNumeral {rest : List UInt8} (h : EndsNumeral rest) :
    places? rest = some (none, rest) := by
  unfold places?
  split
  · exact absurd rfl (h _ rfl).2.1
  · rfl

theorem exponent?_of_endsNumeral {rest : List UInt8} (h : EndsNumeral rest) :
    exponent? rest = some (none, rest) := by
  cases rest with
  | nil => rfl
  | cons b rest =>
    obtain ⟨-, -, he, hE⟩ := h b rfl
    simp [exponent?, he, hE]

/-- The parts of the numeral of an integer. -/
def partsOf (n : ℤ) : NumeralParts := ⟨decide (n < 0), digitsOf n.natAbs, none, none⟩

/-- A minus sign or a digit. -/
def StartsNumeral (b : UInt8) : Prop := b = 0x2D ∨ isDigitByte b = true

theorem exists_utf8_ofNat (n : ℕ) :
    ∃ b bytes, utf8 (ofNat n) = b :: bytes ∧ isDigitByte b = true := by
  obtain ⟨c, cs, hcs⟩ := List.exists_cons_of_ne_nil (ofNat_ne_nil n)
  have hdigit := toNat_of_isDigit (isDigit_of_mem_ofNat (n := n) (c := c) (by simp [hcs]))
  refine ⟨_, _, by rw [utf8_ofNat, hcs, List.map_cons], ?_⟩
  simp [isDigitByte, UInt8.le_iff_toNat_le]
  omega

theorem exists_utf8_ofInt (n : ℤ) : ∃ b bytes, utf8 (ofInt n) = b :: bytes ∧ StartsNumeral b := by
  by_cases hn : n < 0
  · rw [ofInt, if_pos hn]
    exact ⟨_, _, rfl, .inl (by decide)⟩
  · rw [ofInt, if_neg hn]
    obtain ⟨b, bytes, hbytes, hdigit⟩ := exists_utf8_ofNat n.natAbs
    exact ⟨b, bytes, hbytes, .inr hdigit⟩

/-- The numeral of an integer is read with its sign and all its digits. -/
theorem numeral?_ofInt (n : ℤ) {rest : List UInt8} (h : EndsNumeral rest) :
    numeral? (utf8 (ofInt n) ++ rest) = some (partsOf n, rest) := by
  unfold numeral?
  split
  rename_i negative bytes heq
  have hsign : negative = decide (n < 0) ∧ bytes = utf8 (ofNat n.natAbs) ++ rest := by
    by_cases hn : n < 0
    · rw [ofInt, if_pos hn] at heq
      cases heq
      exact ⟨(decide_eq_true hn).symm, rfl⟩
    · rw [ofInt, if_neg hn] at heq
      obtain ⟨b, digits, hdigits, hdigit⟩ := exists_utf8_ofNat n.natAbs
      split at heq
      · rename_i hminus
        rw [hdigits, List.cons_append] at hminus
        rw [(List.cons.inj hminus).1] at hdigit
        cases hdigit
      · cases heq
        exact ⟨(decide_eq_false hn).symm, rfl⟩
  obtain ⟨rfl, rfl⟩ := hsign
  rw [digits_append _ fun b hb => (h b hb).1]
  split
  · rename_i hnil
    exact absurd (Prod.mk.inj hnil).1 (digitsOf_ne_nil _)
  · rename_i hzero
    exact absurd (digitsOf_eq_zero_cons (Prod.mk.inj hzero).1) (List.cons_ne_nil _ _)
  · rename_i heq
    obtain ⟨rfl, rfl⟩ := Prod.mk.inj heq
    simp [places?_of_endsNumeral h, exponent?_of_endsNumeral h, partsOf]

theorem foldl_digits_ge (n : ℕ) (ds : List ℕ) : n ≤ ds.foldl (fun n d => 10 * n + d) n := by
  induction ds generalizing n with
  | nil => exact Nat.le_refl n
  | cons d ds ih =>
    have := ih (10 * n + d)
    rw [List.foldl_cons]
    omega

/-- No digit is dropped from a number that fits into 64 bits. -/
theorem absorb_eq {n : ℕ} {ds : List ℕ} (h : ds.foldl (fun n d => 10 * n + d) n < UInt64.size) :
    absorb n ds = (ds.foldl (fun n d => 10 * n + d) n, ds.length) := by
  induction ds generalizing n with
  | nil => rfl
  | cons d ds ih =>
    rw [List.foldl_cons] at h
    have hfirst := foldl_digits_ge (10 * n + d) ds
    rw [absorb, if_pos (by omega), ih h]
    rfl

theorem foldl_digitsOf (n : ℕ) : (digitsOf n).foldl (fun n d => 10 * n + d) 0 = n := by
  rw [digitsOf, List.foldl_map]
  exact (Nat.ofDigitChars_ten_toDigits (n := n) : _)

theorem value?_partsOf {n : ℤ} (hleast : -(2 ^ 63) ≤ n) (hgreatest : n < 2 ^ 64) :
    (partsOf n).value? = some (.integer n) := by
  have hsize : UInt64.size = 2 ^ 64 := rfl
  have habsorb : absorb 0 (digitsOf n.natAbs) = (n.natAbs, (digitsOf n.natAbs).length) := by
    rw [absorb_eq] <;> rw [foldl_digitsOf]
    omega
  by_cases hn : n < 0
  · have hfits : 0 < n.natAbs ∧ 2 * n.natAbs ≤ UInt64.size := by omega
    have hvalue : (partsOf n).value? = some (.integer (-(n.natAbs : ℤ))) := by
      simp [partsOf, NumeralParts.value?, habsorb, hn, hfits]
    rw [hvalue, show -(n.natAbs : ℤ) = n by omega]
  · have hvalue : (partsOf n).value? = some (.integer n.natAbs) := by
      simp [partsOf, NumeralParts.value?, habsorb, hn]
    rw [hvalue, show (n.natAbs : ℤ) = n by omega]

/-! ## Strings -/

/-- A piece of the inside of a string that denotes some bytes, whatever follows
it. -/
structure Denotes (piece bytes : List UInt8) : Prop where
  inside : ∀ rest, stringBytes? (piece ++ rest) =
    (stringBytes? rest).map fun r => (piece ++ r.1, r.2)
  value : ∀ rest, unescape? (piece ++ rest) = (unescape? rest).map (bytes ++ ·)
  form : ∀ rest, hasStringForm (piece ++ rest) = hasStringForm rest

theorem Denotes.nil : Denotes [] [] where
  inside rest := by simp
  value rest := by simp
  form rest := rfl

theorem Denotes.append {p q bs cs : List UInt8} (h : Denotes p bs) (h' : Denotes q cs) :
    Denotes (p ++ q) (bs ++ cs) where
  inside rest := by
    rw [List.append_assoc, h.inside, h'.inside, Option.map_map]
    simp [Function.comp_def]
  value rest := by
    rw [List.append_assoc, h.value, h'.value, Option.map_map]
    simp [Function.comp_def]
  form rest := by rw [List.append_assoc, h.form, h'.form]

/-- A byte that stands for itself in a string. -/
def IsPlainByte (b : UInt8) : Prop := 0x20 ≤ b ∧ b ≠ 0x22 ∧ b ≠ 0x5C

theorem stringBytes?_cons {b : UInt8} (h : IsPlainByte b) (rest : List UInt8) :
    stringBytes? (b :: rest) = (stringBytes? rest).map fun r => (b :: r.1, r.2) := by
  obtain ⟨-, hquote, hslash⟩ := h
  rw [stringBytes?]
  · exact fun hb => hquote hb
  · exact fun _ _ hb => absurd hb hslash

theorem Denotes.plain {b : UInt8} (h : IsPlainByte b) : Denotes [b] [b] where
  inside rest := stringBytes?_cons h rest
  value rest := by
    rw [List.singleton_append, unescape?]
    · simp [UInt8.not_lt.mpr h.1]
    · exact fun _ _ _ _ _ hb => absurd hb h.2.2
    · exact fun _ _ hb => absurd hb h.2.2
  form rest := by
    rw [List.singleton_append, hasStringForm]
    · simp [h.1]
    · exact fun _ _ _ _ _ hb => absurd hb h.2.2
    · exact fun _ _ hb => absurd hb h.2.2

theorem Denotes.of_plain {bytes : List UInt8} (h : ∀ b ∈ bytes, IsPlainByte b) :
    Denotes bytes bytes := by
  induction bytes with
  | nil => exact .nil
  | cons b bytes ih =>
    rw [List.forall_mem_cons] at h
    exact (Denotes.plain h.1).append (ih h.2)

theorem Denotes.escape {b e : UInt8} (h : escape? b = some e) : Denotes [0x5C, b] [e] := by
  -- no letter of an escape is that of a code point
  have hu : b ≠ 0x75 := by
    rintro rfl
    cases h
  refine ⟨fun rest => ?_, fun rest => ?_, fun rest => ?_⟩ <;>
    rw [List.cons_append, List.singleton_append]
  · rw [stringBytes?]
    rfl
  · rw [unescape?]
    · simp [h]
    · exact fun _ _ _ _ _ hb => absurd hb hu
  · rw [hasStringForm]
    · simp [h]
    · exact fun _ _ _ _ _ hb => absurd hb hu

theorem Denotes.hex {a b c d : UInt8} {n : ℕ} (h : hex? a b c d = some n) (hn : n < 0xD800)
    (hplain : ∀ e ∈ [a, b, c, d], IsPlainByte e) :
    Denotes [0x5C, 0x75, a, b, c, d] (codeBytes n) where
  inside rest := by
    have := (Denotes.of_plain hplain).inside rest
    simp only [List.cons_append, List.nil_append] at this ⊢
    rw [stringBytes?, this, Option.map_map]
    rfl
  value rest := by
    simp only [List.cons_append, List.nil_append, unescape?, h]
    rw [if_neg (by simp; omega), if_neg (by simp; omega)]
  form rest := by
    simp [hasStringForm, h]

/-- The byte of a hexadecimal digit. -/
def digitByte (d : ℕ) : UInt8 := UInt8.ofNat d.digitChar.toNat

theorem isPlainByte_digitByte : ∀ d < 16, IsPlainByte (digitByte d) := by
  unfold IsPlainByte
  decide

/-- The control characters have four hexadecimal digits of their own. -/
theorem hexText_control : ∀ n < 0x20,
    utf8 (hexText n) = [digitByte 0, digitByte 0, digitByte (n / 16), digitByte (n % 16)] ∧
      hex? (digitByte 0) (digitByte 0) (digitByte (n / 16)) (digitByte (n % 16)) = some n := by
  decide

/-- No byte of a character beyond ASCII is one of ASCII. -/
theorem le_of_mem_utf8EncodeChar {c : Char} (h : 128 ≤ c.toNat) :
    ∀ b ∈ String.utf8EncodeChar c, 128 ≤ b.toNat := by
  have hval : c.val.toNat = c.toNat := rfl
  simp only [String.utf8EncodeChar, hval]
  split_ifs <;> simp <;> omega

/-- Characters other than quotes, backslashes and controls stand for
themselves. -/
theorem isPlainByte_of_mem_utf8EncodeChar {c : Char} (hquote : c ≠ '"') (hslash : c ≠ '\\')
    (hcontrol : ¬c.toNat < 0x20) : ∀ b ∈ String.utf8EncodeChar c, IsPlainByte b := by
  intro b hb
  simp only [IsPlainByte, UInt8.le_iff_toNat_le, ne_eq, ← UInt8.toNat_inj, UInt8.reduceToNat]
  simp only [ne_eq, ← Char.toNat_inj, Char.reduceToNat] at hquote hslash
  rcases Nat.lt_or_ge c.toNat 128 with hc | hc
  · rw [utf8EncodeChar_ascii hc, List.mem_singleton] at hb
    rw [hb, UInt8.toNat_ofNat']
    omega
  · have := le_of_mem_utf8EncodeChar hc b hb
    omega

theorem denotes_stringChar (c : Char) :
    Denotes (utf8 (stringChar c)) (String.utf8EncodeChar c) := by
  unfold stringChar
  split_ifs with hquote hslash hcontrol
  · subst hquote
    exact Denotes.escape (b := 0x22) rfl
  · subst hslash
    exact Denotes.escape (b := 0x5C) rfl
  · obtain ⟨htext, hhex⟩ := hexText_control c.toNat hcontrol
    have hcode : codeBytes c.toNat = String.utf8EncodeChar c := by
      rw [codeBytes, Char.ofNat_toNat]
    change Denotes (0x5C :: 0x75 :: utf8 (hexText c.toNat)) _
    rw [htext, ← hcode]
    refine Denotes.hex hhex (by omega) ?_
    simp only [List.forall_mem_cons]
    exact ⟨isPlainByte_digitByte _ (by omega), isPlainByte_digitByte _ (by omega),
      isPlainByte_digitByte _ (by omega), isPlainByte_digitByte _ (by omega), by simp⟩
  · change Denotes (String.utf8EncodeChar c ++ []) _
    rw [List.append_nil]
    exact Denotes.of_plain (isPlainByte_of_mem_utf8EncodeChar hquote hslash hcontrol)

theorem denotes_flatMap_stringChar (t : Text) : Denotes (utf8 (t.flatMap stringChar)) (utf8 t) := by
  induction t with
  | nil => exact .nil
  | cons c t ih =>
    rw [List.flatMap_cons, utf8_append]
    exact (denotes_stringChar c).append ih

/-- The inside of the string of a text is followed by the closing quote. -/
theorem stringBytes?_stringText (t : Text) (rest : List UInt8) :
    stringBytes? (utf8 (t.flatMap stringChar) ++ 0x22 :: rest) =
      some (utf8 (t.flatMap stringChar), rest) := by
  rw [(denotes_flatMap_stringChar t).inside, stringBytes?]
  simp

/-- A text is read from its string. -/
theorem string?_stringText (t : Text) (rest : List UInt8) :
    string? (utf8 (t.flatMap stringChar) ++ 0x22 :: rest) = some (t, rest) := by
  have hvalue := (denotes_flatMap_stringChar t).value []
  rw [List.append_nil, unescape?, Option.map_some, List.append_nil] at hvalue
  simp [string?, stringBytes?_stringText, hvalue]

/-- The string of a text is left out as a whole. -/
theorem skipString?_stringText (t : Text) (rest : List UInt8) :
    skipString? (utf8 (t.flatMap stringChar) ++ 0x22 :: rest) = some rest := by
  have hform := (denotes_flatMap_stringChar t).form []
  rw [List.append_nil] at hform
  simp [skipString?, stringBytes?_stringText, hform, hasStringForm]

end FormLetter.Json
