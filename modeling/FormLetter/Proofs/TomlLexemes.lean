import FormLetter.Configuration.Toml
import FormLetter.Proofs.JsonLexemes
import FormLetter.Proofs.RecipientLines

/-!
# Scalars and keys in TOML

A truth value, an integer or a text that is written out is read back, whatever follows it, and so
is a key without quotes. A text needs its quotes, backslashes and control characters escaped. An
integer could be the start of a date or a time: it is none, since neither a hyphen nor a colon
follows its digits.

Specification: `scalarText` is what is written for a scalar, and `IsWritable` says which scalars can
be written. `IsBareKey` is said of keys that need no quotes.

* `string?_stringText`: a text is read from its string.
* `moment?_eq_none`: a word is a date or a time only if a hyphen or a colon follows its first
  digits.
* `atom?_scalarText`, `value?_scalarText`: a scalar is read from what is written for it.
* `IsBareKey.key?`: a bare key is read with the gap behind it.
-/

namespace FormLetter.Configuration.Toml

/-! ## Specification -/

/-- A character inside a string between double quotes. -/
def stringChar (c : Char) : Text :=
  if c = '"' ∨ c = '\\' then ['\\', c]
  else if isVisible c then [c]
  else '\\' :: 'u' :: Json.hexText c.toNat

/-- A text as a string. -/
def stringText (t : Text) : Text := '"' :: t.flatMap stringChar ++ ['"']

/-- A truth value, an integer or a text, written out. -/
def scalarText : Scalar → Text
  | .bool b => if b then "true".toList else "false".toList
  | .integer n => Text.ofInt n
  | .text t => stringText t
  | _ => []

/-- A scalar that can be written: no fraction, and no integer beyond 64 bits. -/
def IsWritable : Scalar → Prop
  | .bool _ => True
  | .integer n => -(2 ^ 63) ≤ n ∧ n < 2 ^ 63
  | .text _ => True
  | _ => False

/-- A key without quotes and full stops. -/
def IsBareKey (key : Text) : Prop := key ≠ [] ∧ ∀ c ∈ key, isKeyChar c = true

/-! ## Strings -/

/-- What is invisible has four hexadecimal digits of its own. -/
theorem hexText_invisible : ∀ n < 0x80,
    Json.hexText n = ['0', '0', (n / 16).digitChar, (n % 16).digitChar] ∧
      codePoint? ['0', '0', (n / 16).digitChar, (n % 16).digitChar] = some (Char.ofNat n) := by
  decide

theorem lt_of_isVisible_eq_false {c : Char} (h : isVisible c = false) : c.toNat < 0x80 := by
  simp only [isVisible, Bool.or_eq_false_iff, Bool.and_eq_false_iff, bne_eq_false_iff_eq,
    decide_eq_false_iff_not] at h
  rcases h.2 with hlt | rfl
  · omega
  · decide

/-- The character at the start of the inside of a string is read. -/
theorem shortString?_stringChar (before : Text) (c : Char) (rest : Text) (fuel : ℕ) :
    shortString? '"' before (fuel + 1) (stringChar c ++ rest) =
      shortString? '"' (c :: before) fuel rest := by
  unfold stringChar
  split_ifs with hescape hvisible
  · rcases hescape with rfl | rfl <;> rfl
  · rw [not_or] at hescape
    simp [shortString?, hescape.1, hescape.2, hvisible]
  · have hlt := lt_of_isVisible_eq_false (Bool.eq_false_iff.mpr hvisible)
    obtain ⟨hdigits, hcode⟩ := hexText_invisible c.toNat hlt
    rw [Char.ofNat_toNat] at hcode
    simp [shortString?, hdigits, escape?, hcode]

/-- A text is read from its string. -/
theorem shortString?_stringText (before t rest : Text) {fuel : ℕ} (hfuel : t.length < fuel) :
    shortString? '"' before fuel (t.flatMap stringChar ++ '"' :: rest) =
      some (before.reverse ++ t, rest) := by
  obtain ⟨fuel, rfl⟩ : ∃ n, fuel = n + 1 := ⟨fuel - 1, by omega⟩
  induction t generalizing before fuel with
  | nil => simp [shortString?]
  | cons c t ih =>
    rw [List.length_cons] at hfuel
    obtain ⟨fuel, rfl⟩ : ∃ n, fuel = n + 1 := ⟨fuel - 1, by omega⟩
    rw [List.flatMap_cons, List.append_assoc, shortString?_stringChar, ih _ _ (by omega)]
    simp

/-- Two quotes at the start of a string belong to it only if a third one
follows. -/
theorem string?_quote {t : Text} (h : ∀ rest, t ≠ '"' :: '"' :: rest) :
    string? ('"' :: t) = shortString? '"' [] (t.length + 1) t := by
  unfold string?
  split
  · rename_i rest heq
    exact absurd (List.cons.inj heq).2 (h rest)
  · rename_i heq
    cases heq
  · rename_i heq
    obtain ⟨-, rfl⟩ := List.cons.inj heq
    rfl
  · rename_i heq
    cases heq
  · rename_i hshort _
    exact absurd rfl (hshort t)

theorem head?_stringChar_ne (c : Char) : (stringChar c).head? ≠ some '"' := by
  unfold stringChar
  split_ifs with hescape hvisible <;> simp_all

theorem stringChar_ne_nil (c : Char) : stringChar c ≠ [] := by
  unfold stringChar
  split_ifs <;> simp

theorem length_le_length_flatMap_stringChar (t : Text) :
    t.length ≤ (t.flatMap stringChar).length := by
  induction t with
  | nil => simp
  | cons c t ih =>
    have := List.length_pos_of_ne_nil (stringChar_ne_nil c)
    rw [List.flatMap_cons, List.length_append, List.length_cons]
    omega

/-- A text is read from its string. -/
theorem string?_stringText (t : Text) {rest : Text} (hrest : rest.head? ≠ some '"') :
    string? (stringText t ++ rest) = some (t, rest) := by
  have hlength := length_le_length_flatMap_stringChar t
  simp only [stringText, List.cons_append, List.append_assoc, List.nil_append]
  rw [string?_quote, shortString?_stringText]
  · rfl
  · simp only [List.length_append, List.length_cons]
    omega
  · intro after heq
    cases t with
    | nil => simp_all
    | cons c t =>
      have hhead := head?_stringChar_ne c
      have hfirst := congrArg List.head? heq
      rw [List.flatMap_cons, List.append_assoc, List.head?_append] at hfirst
      cases hchar : stringChar c <;> simp_all [stringChar_ne_nil]

/-! ## Words -/

/-- What may follow a word that is complete. -/
def EndsWord (rest : Text) : Prop :=
  ∀ c ∈ rest.head?, isWordChar c = false ∧ c ≠ ':' ∧ c ≠ '"'

theorem eq_append_of_field? {width least greatest n : ℕ} {t rest : Text}
    (h : field? width least greatest t = some (n, rest)) :
    ∃ ds, t = ds ++ rest ∧ ds.length = width ∧ ∀ c ∈ ds, c.isDigit = true := by
  simp only [field?] at h
  split_ifs at h with hfield
  obtain ⟨-, rfl⟩ := Prod.mk.inj (Option.some.inj h)
  simp only [Bool.and_eq_true, decide_eq_true_eq, List.all_eq_true] at hfield
  exact ⟨t.take width, (List.take_append_drop width t).symm, hfield.1.1.1, hfield.1.1.2⟩

theorem eq_cons_of_expect? {c : Char} {t rest : Text} (h : expect? c t = some rest) :
    t = c :: rest := by
  unfold expect? at h
  split at h
  · split_ifs at h with hc
    cases h
    rw [hc]
  · cases h

/-- Digits and the character that has to follow them. -/
theorem not_field?_expect? {t : Text} {c : Char} (hc : c.isDigit = false)
    (h : t.takeWhile Char.isDigit ≠ [] → (t.dropWhile Char.isDigit).head? ≠ some c)
    {width least greatest n : ℕ} {rest rest' : Text} (hwidth : 0 < width)
    (hfield : field? width least greatest t = some (n, rest)) : expect? c rest ≠ some rest' := by
  intro hexpect
  obtain ⟨ds, rfl, hlength, hdigits⟩ := eq_append_of_field? hfield
  obtain rfl := eq_cons_of_expect? hexpect
  have hstop : ∀ d ∈ (c :: rest').head?, d.isDigit = false := by simpa
  obtain ⟨htake, hdrop⟩ := Text.takeWhile_dropWhile_append hdigits hstop
  rw [htake, hdrop] at h
  exact h (by rintro rfl; simp at hlength; omega) rfl

/-- A word is a date or a time only if a hyphen or a colon follows its first
digits. -/
theorem moment?_eq_none {limits : MomentLimits} {t : Text}
    (h : t.takeWhile Char.isDigit ≠ [] →
      ∀ c ∈ (t.dropWhile Char.isDigit).head?, c ≠ '-' ∧ c ≠ ':') :
    moment? limits t = none := by
  have hdate : date? t = none := by
    rw [date?, Option.bind_eq_bind, Option.bind_eq_none_iff]
    rintro ⟨year, rest⟩ hyear
    have hhyphen : expect? '-' rest = none :=
      Option.eq_none_iff_forall_ne_some.mpr fun after =>
        not_field?_expect? rfl (fun hds hc => (h hds _ hc).1 rfl) (by decide) hyear
    simp [hhyphen]
  have htime : time? limits t = none := by
    rw [time?, Option.bind_eq_bind, Option.bind_eq_none_iff]
    rintro ⟨hour, rest⟩ hhour
    have hcolon : expect? ':' rest = none :=
      Option.eq_none_iff_forall_ne_some.mpr fun after =>
        not_field?_expect? rfl (fun hds hc => (h hds _ hc).2 rfl) (by decide) hhour
    simp [hcolon]
  rw [moment?, hdate]
  exact htime

/-! ## Numerals -/

theorem digits?_ofNat (n : ℕ) : digits? Char.isDigit (Text.ofNat n) = some (Text.ofNat n) := by
  have hsplit : (Text.ofNat n).split '_' = (Text.ofNat n, []) :=
    Text.split_of_not_mem fun h => absurd (Text.isDigit_of_mem_ofNat h) (by decide)
  have hdigits : (Text.ofNat n).all Char.isDigit = true :=
    List.all_eq_true.mpr fun _ => Text.isDigit_of_mem_ofNat
  simp [digits?, hsplit, hdigits, Text.ofNat_ne_nil]

theorem wholeDigits?_ofNat (n : ℕ) : wholeDigits? (Text.ofNat n) = some (Text.ofNat n) := by
  unfold wholeDigits?
  rw [digits?_ofNat]
  split
  · rename_i heq
    exact absurd (Option.some.inj heq) (Text.ofNat_ne_zero_cons n _ _)
  · rfl

theorem signAndRest_ofNat (n : ℕ) : signAndRest (Text.ofNat n) = ([], Text.ofNat n) := by
  rw [signAndRest]
  · exact fun _ => Text.ofNat_ne_cons rfl
  · exact fun _ => Text.ofNat_ne_cons rfl

theorem sign_ofNat (n : ℕ) : Numeral.sign (Text.ofNat n) = (false, Text.ofNat n) := by
  rw [Numeral.sign]
  · exact fun _ => Text.ofNat_ne_cons rfl
  · exact fun _ => Text.ofNat_ne_cons rfl

theorem integer?_ofInt {n : ℤ} (h : -(2 ^ 63) ≤ n ∧ n < 2 ^ 63) :
    integer? (Text.ofInt n) = some (.integer n) := by
  have hsize : UInt64.size = 2 ^ 64 := rfl
  have hdigits : Numeral.isDigits (Text.ofNat n.natAbs) = true := by
    simp [Numeral.isDigits, Text.ofNat_ne_nil]
    exact fun _ => Text.isDigit_of_mem_ofNat
  have hvalue : Text.digitsValue (Text.ofNat n.natAbs) = n.natAbs := by
    rw [Text.digitsValue_eq_ofDigitChars, Text.ofNat, Nat.ofDigitChars_ten_toDigits]
  by_cases hn : n < 0
  · have hfits : 2 * n.natAbs ≤ UInt64.size := by omega
    have hread : integer? ('-' :: Text.ofNat n.natAbs) = some (.integer (-(n.natAbs : ℤ))) := by
      simp [integer?, signAndRest, wholeDigits?_ofNat, Numeral.integer?, Numeral.sign, hdigits,
        hvalue, hfits]
    rw [Text.ofInt, if_pos hn, hread, show -(n.natAbs : ℤ) = n by omega]
  · have hfits : 2 * n.natAbs < UInt64.size := by omega
    have hread : integer? (Text.ofNat n.natAbs) = some (.integer n.natAbs) := by
      simp [integer?, signAndRest_ofNat, wholeDigits?_ofNat, Numeral.integer?, sign_ofNat, hdigits,
        hvalue, hfits]
    rw [Text.ofInt, if_neg hn, hread, show (n.natAbs : ℤ) = n by omega]

theorem ofInt_ne_word {n : ℤ} {c : Char} {word : Text} (hc : c ∈ word) (hsign : c ≠ '-')
    (hdigit : c.isDigit = false) : Text.ofInt n ≠ word := by
  rintro rfl
  rcases Text.eq_or_isDigit_of_mem_ofInt hc with heq | heq
  · exact hsign heq
  · simp [hdigit] at heq

theorem scalarOfWord?_ofInt {n : ℤ} (h : -(2 ^ 63) ≤ n ∧ n < 2 ^ 63) :
    scalarOfWord? (Text.ofInt n) = some (.integer n) := by
  unfold scalarOfWord?
  split
  · exact absurd ‹_› (Text.ofInt_ne_zero_cons n _ _)
  · exact absurd ‹_› (Text.ofInt_ne_zero_cons n _ _)
  · exact absurd ‹_› (Text.ofInt_ne_zero_cons n _ _)
  · have htrue : Text.ofInt n ≠ "true".toList :=
      ofInt_ne_word (c := 't') (by decide) (by decide) rfl
    have hfalse : Text.ofInt n ≠ "false".toList :=
      ofInt_ne_word (c := 'f') (by decide) (by decide) rfl
    rw [if_neg htrue, if_neg hfalse, integer?_ofInt h]

/-! ## Scalars -/

/-- What begins with characters of a class begins with none of another class. -/
theorem append_ne_cons {p : Char → Bool} {s rest t : Text} {c : Char} (hne : s ≠ [])
    (hs : ∀ d ∈ s, p d = true) (hc : p c = false) : s ++ rest ≠ c :: t := by
  intro heq
  obtain ⟨d, ds, rfl⟩ := List.exists_cons_of_ne_nil hne
  have := hs d (by simp)
  rw [(List.cons.inj heq).1, hc] at this
  cases this

/-- A word is read up to its end. -/
theorem atom?_word {word rest : Text} {s : Scalar} (hne : word ≠ [])
    (hchars : ∀ c ∈ word, isWordChar c = true)
    (hmoment : moment? plainLimits (word ++ rest) = none) (hscalar : scalarOfWord? word = some s)
    (hrest : EndsWord rest) : atom? (word ++ rest) = some (.scalar s, rest) := by
  obtain ⟨htake, hdrop⟩ := Text.takeWhile_dropWhile_append hchars fun c hc => (hrest c hc).1
  rw [atom?]
  · rw [hmoment, htake, hdrop, hscalar]
    rfl
  · exact fun _ => append_ne_cons hne hchars rfl
  · exact fun _ => append_ne_cons hne hchars rfl

theorem isWordChar_of_mem_ofInt {n : ℤ} : ∀ c ∈ Text.ofInt n, isWordChar c = true := by
  intro c hc
  rcases Text.eq_or_isDigit_of_mem_ofInt hc with rfl | hdigit
  · rfl
  · simp [isWordChar, Char.isAlphanum, hdigit]

/-- An integer is no date and no time. -/
theorem moment?_ofInt (n : ℤ) {rest : Text} (hrest : EndsWord rest) :
    moment? plainLimits (Text.ofInt n ++ rest) = none := by
  refine moment?_eq_none fun hdigits c hc => ?_
  by_cases hn : n < 0
  · rw [Text.ofInt, if_pos hn] at hdigits
    exact absurd rfl hdigits
  · have hstop : ∀ c ∈ rest.head?, c.isDigit = false := by
      intro c hc
      have := (hrest c hc).1
      simp [isWordChar, Char.isAlphanum] at this
      simpa using this.1.1.1.1.2
    rw [Text.ofInt, if_neg hn, (Text.takeWhile_dropWhile_append
      (fun _ => Text.isDigit_of_mem_ofNat) hstop).2] at hc
    obtain ⟨hword, hcolon, -⟩ := hrest c hc
    refine ⟨?_, hcolon⟩
    rintro rfl
    cases hword

/-- A scalar is read from what is written for it. -/
theorem atom?_scalarText {s : Scalar} (h : IsWritable s) {rest : Text} (hrest : EndsWord rest) :
    atom? (scalarText s ++ rest) = some (.scalar s, rest) := by
  match s with
  | .bool true =>
    exact atom?_word (by decide) (List.all_eq_true.mp rfl)
      (moment?_eq_none fun hdigits => absurd rfl hdigits) rfl hrest
  | .bool false =>
    exact atom?_word (by decide) (List.all_eq_true.mp rfl)
      (moment?_eq_none fun hdigits => absurd rfl hdigits) rfl hrest
  | .integer n =>
    exact atom?_word (Text.ofInt_ne_nil n) isWordChar_of_mem_ofInt (moment?_ofInt n hrest)
      (scalarOfWord?_ofInt h) hrest
  | .text t =>
    have hread : string? (stringText t ++ rest) = some (t, rest) :=
      string?_stringText t fun hc => (hrest _ hc).2.2 rfl
    change (string? (stringText t ++ rest)).map _ = _
    rw [hread]
    rfl

/-- A written scalar begins with a quote or as a word. -/
theorem exists_scalarText_eq_cons {s : Scalar} (h : IsWritable s) :
    ∃ c t, scalarText s = c :: t ∧ (c = '"' ∨ isWordChar c = true) := by
  match s with
  | .bool true => exact ⟨_, _, rfl, .inr rfl⟩
  | .bool false => exact ⟨_, _, rfl, .inr rfl⟩
  | .integer n =>
    obtain ⟨c, t, hct⟩ := List.exists_cons_of_ne_nil (Text.ofInt_ne_nil n)
    exact ⟨c, t, hct, .inr (isWordChar_of_mem_ofInt (n := n) c (by simp [hct]))⟩
  | .text t => exact ⟨_, _, rfl, .inl rfl⟩

theorem scalarText_ne_cons {s : Scalar} (h : IsWritable s) {c : Char} (hquote : c ≠ '"')
    (hword : isWordChar c = false) (rest t : Text) : scalarText s ++ rest ≠ c :: t := by
  obtain ⟨d, ds, heq, hd⟩ := exists_scalarText_eq_cons h
  rw [heq]
  rintro hcons
  rw [(List.cons.inj hcons).1] at hd
  rcases hd with rfl | hd
  · exact hquote rfl
  · simp [hword] at hd

theorem skipGap_scalarText {s : Scalar} (h : IsWritable s) (rest : Text) :
    skipGap (scalarText s ++ rest) = scalarText s ++ rest := by
  obtain ⟨c, t, heq, hc⟩ := exists_scalarText_eq_cons h
  rw [heq]
  refine List.dropWhile_cons_of_neg ?_
  rw [isGap, Bool.or_eq_true, beq_iff_eq, beq_iff_eq]
  rintro (rfl | rfl) <;> rcases hc with hc | hc <;> cases hc

/-- A scalar is a value without parts. -/
theorem value?_scalarText {s : Scalar} (h : IsWritable s) {rest : Text} (hrest : EndsWord rest)
    (fuel depth : ℕ) :
    value? (fuel + 1) depth (scalarText s ++ rest) = some (.atom (.scalar s), rest) := by
  have hlist (t : Text) := scalarText_ne_cons (c := '[') h (by decide) rfl rest t
  have htable (t : Text) := scalarText_ne_cons (c := '\x7b') h (by decide) rfl rest t
  unfold value?
  split
  · exact absurd ‹_› (hlist _)
  · exact absurd ‹_› (hlist _)
  · exact absurd ‹_› (htable _)
  · exact absurd ‹_› (htable _)
  · rw [atom?_scalarText h hrest]
    rfl

/-! ## Keys -/

theorem IsBareKey.ne_cons {key : Text} (h : IsBareKey key) {c : Char}
    (hc : isKeyChar c = false) (rest t : Text) : key ++ rest ≠ c :: t :=
  append_ne_cons h.1 h.2 hc

theorem IsBareKey.simpleKey? {key : Text} (h : IsBareKey key) {rest : Text}
    (hrest : ∀ c ∈ rest.head?, isKeyChar c = false) :
    simpleKey? (key ++ rest) = some (key, rest) := by
  obtain ⟨htake, hdrop⟩ := Text.takeWhile_dropWhile_append h.2 hrest
  rw [Toml.simpleKey?]
  · simp [htake, hdrop, h.1]
  · exact h.ne_cons rfl rest
  · exact h.ne_cons rfl rest

theorem isGap_of_isKeyChar {c : Char} (h : isKeyChar c = true) : isGap c = false := by
  rw [isGap, Bool.or_eq_false_iff, beq_eq_false_iff_ne, beq_eq_false_iff_ne]
  refine ⟨?_, ?_⟩ <;> rintro rfl <;> cases h

theorem IsBareKey.skipGap_append {key : Text} (h : IsBareKey key) (rest : Text) :
    skipGap (key ++ rest) = key ++ rest := by
  obtain ⟨c, cs, rfl⟩ := List.exists_cons_of_ne_nil h.1
  exact List.dropWhile_cons_of_neg (by simp [isGap_of_isKeyChar (h.2 c (by simp))])

/-- A bare key is read with the gap behind it. -/
theorem IsBareKey.key? {key : Text} (h : IsBareKey key) {rest : Text}
    (hrest : ∀ c ∈ rest.head?, isKeyChar c = false) (hstop : ∀ t, skipGap rest ≠ '.' :: t) :
    Toml.key? (key ++ rest) = some ([key], skipGap rest) := by
  obtain ⟨fuel, hfuel⟩ : ∃ n, (key ++ rest).length = n + 1 := by
    obtain ⟨c, cs, rfl⟩ := List.exists_cons_of_ne_nil h.1
    exact ⟨_, rfl⟩
  rw [Toml.key?, hfuel, keyParts?, h.skipGap_append, h.simpleKey? hrest]
  simp [Option.filter, greatestDepth]

theorem endsWord_newline (rest : Text) : EndsWord ('\n' :: rest) := by
  rintro c ⟨⟩
  decide

theorem lineEnd?_newline (rest : Text) : lineEnd? ('\n' :: rest) = some rest := rfl

end FormLetter.Configuration.Toml
