import FormLetter.Proofs.Respelling

/-!
# Reading placeholders at byte offsets

A template can be read through its bytes: an opening brace is searched for from
an offset on, the bytes of the name and the closing braces behind it are counted,
and the placeholder is cut out at the offsets that the counts give. Nothing in
this says that a character ends at any of the offsets, or that the template is
that long. Every access is therefore made one that can fail, and the reader has
no result where one of them does.

Specification: `attempt?` tries to read a placeholder at an offset. It gives the
offsets at which it cuts, also where there is no placeholder, together with what
it found.

Results:

* `takeWhile_utf8`: counting characters of ASCII counts their bytes.
* `attempt?_eq`: an attempt at an opening brace never fails an access. It finds
  the placeholder that reading finds, and it cuts at increasing offsets where
  characters end.
-/

namespace FormLetter

/-! ## Specification -/

namespace Text

/-- A character ends at the byte offset, or the text begins there. -/
def IsBoundary (t : Text) (n : ℕ) : Prop := ∃ before after, t = before ++ after ∧ before.size = n

/-- Offsets at which a text can be cut one after the other: they are in order,
and all of them are boundaries. -/
structure CutsWell (t : Text) (cuts : List ℕ) : Prop where
  ordered : cuts.Pairwise (· ≤ ·)
  boundary : ∀ n ∈ cuts, t.IsBoundary n

/-- The text from a byte offset on, if the offset is a boundary. -/
def from? (n : ℕ) (t : Text) : Option Text := (cutAt? n t).map Prod.snd

/-- The bytes from an offset on, if there are as many. -/
def bytesFrom? (n : ℕ) (bytes : List UInt8) : Option (List UInt8) :=
  if n ≤ bytes.length then some (bytes.drop n) else none

end Text

/-- A placeholder that was cut out of a template. -/
structure Match where
  raw : Text
  name : Text
  opening : ℕ
  closing : ℕ
  start : ℕ
  stop : ℕ
  deriving DecidableEq, Repr

/-- The occurrence of a placeholder, cut out. -/
def Occurrence.toMatch (o : Occurrence) : Match :=
  ⟨o.placeholder.text, o.placeholder.name, o.placeholder.opening.count,
    o.placeholder.closing.count, o.start, o.stop⟩

/-- The offsets at which an attempt to read a placeholder cuts the template, and
the placeholder if there is one. -/
structure Attempt where
  cuts : List ℕ
  found? : Option Match
  deriving DecidableEq, Repr

namespace Template

def openingByte : UInt8 := 0x7B

def closingByte : UInt8 := 0x7D

/-- The bytes of the letters and digits, the underscore and the full stop. -/
def isNameByte (b : UInt8) : Bool :=
  (0x41 ≤ b && b ≤ 0x5A) || (0x61 ≤ b && b ≤ 0x7A) || (0x30 ≤ b && b ≤ 0x39) || b == 0x5F ||
    b == 0x2E

/-- Tries to read a placeholder at the opening brace at an offset. There is no
result where an access is out of range or inside a character. -/
def attempt? (template : Text) (start : ℕ) : Option Attempt := do
  let bytes := template.utf8
  let opening := if bytes[start + 1]? = some openingByte then 2 else 1
  let nameStart := start + opening
  let nameLength := ((← Text.bytesFrom? nameStart bytes).takeWhile isNameByte).length
  if nameLength = 0 then
    return ⟨[start, nameStart], none⟩
  let nameEnd := nameStart + nameLength
  let closing := (((← Text.bytesFrom? nameEnd bytes).take 2).takeWhile (· == closingByte)).length
  if closing = 0 then
    return ⟨[start, nameStart, nameEnd], none⟩
  let stop := nameEnd + closing
  let raw ← template.slice? start stop
  let name ← template.slice? nameStart nameEnd
  return ⟨[start, nameStart, nameEnd, stop], some ⟨raw, name, opening, closing, start, stop⟩⟩

end Template

/-! ## Places in a text -/

namespace Text

theorem IsBoundary.le_size {t : Text} {n : ℕ} (h : t.IsBoundary n) : n ≤ t.size := by
  obtain ⟨before, after, rfl, rfl⟩ := h
  rw [size_append]
  exact Nat.le_add_right _ _

theorem CutsWell.cons {t : Text} {m n : ℕ} {cuts : List ℕ} (h : t.CutsWell (n :: cuts))
    (hle : m ≤ n) (hm : t.IsBoundary m) : t.CutsWell (m :: n :: cuts) where
  ordered := by
    refine List.pairwise_cons.mpr ⟨fun k hk => ?_, h.ordered⟩
    rcases List.mem_cons.mp hk with rfl | hk
    · exact hle
    · exact Nat.le_trans hle (List.rel_of_pairwise_cons h.ordered hk)
  boundary := List.forall_mem_cons.mpr ⟨hm, h.boundary⟩

theorem utf8_append (s t : Text) : utf8 (s ++ t) = utf8 s ++ utf8 t := List.flatMap_append

theorem from?_eq_some_iff {n : ℕ} {t after : Text} :
    t.from? n = some after ↔ ∃ before, t = before ++ after ∧ before.size = n := by
  simp only [from?, Option.map_eq_some_iff, Prod.exists, cutAt?_eq_some_iff]
  constructor
  · rintro ⟨before, _, hcut, rfl⟩
    exact ⟨before, hcut⟩
  · rintro ⟨before, hcut⟩
    exact ⟨before, after, hcut, rfl⟩

theorem from?_zero (t : Text) : t.from? 0 = some t :=
  from?_eq_some_iff.mpr ⟨[], rfl, rfl⟩

theorem from?_size (t : Text) : t.from? t.size = some [] :=
  from?_eq_some_iff.mpr ⟨t, (List.append_nil t).symm, rfl⟩

theorem isBoundary_iff {n : ℕ} {t : Text} : t.IsBoundary n ↔ ∃ after, t.from? n = some after := by
  simp only [from?_eq_some_iff]
  exact exists_comm

section Place

variable {n : ℕ} {t s after : Text}

theorem size_of_from? (h : t.from? n = some after) : t.size = n + after.size := by
  obtain ⟨before, rfl, rfl⟩ := from?_eq_some_iff.mp h
  exact size_append before after

theorem isBoundary_of_from? (h : t.from? n = some after) : t.IsBoundary n :=
  isBoundary_iff.mpr ⟨after, h⟩

/-- The place behind a text is as many bytes further on as the text has. -/
theorem from?_add (h : t.from? n = some (s ++ after)) : t.from? (n + s.size) = some after := by
  obtain ⟨before, rfl, rfl⟩ := from?_eq_some_iff.mp h
  exact from?_eq_some_iff.mpr ⟨before ++ s, (List.append_assoc _ _ _).symm, size_append _ _⟩

theorem slice?_of_from? (h : t.from? n = some (s ++ after)) :
    t.slice? n (n + s.size) = some s := by
  obtain ⟨before, rfl, rfl⟩ := from?_eq_some_iff.mp h
  rw [← List.append_assoc, slice?_append]

theorem bytesFrom?_of_from? (h : t.from? n = some after) :
    bytesFrom? n t.utf8 = some after.utf8 := by
  obtain ⟨before, rfl, rfl⟩ := from?_eq_some_iff.mp h
  rw [utf8_append, bytesFrom?, ← length_utf8 before, List.drop_left, if_pos]
  rw [List.length_append]
  exact Nat.le_add_right _ _

theorem getElem?_utf8_of_from? (h : t.from? n = some after) (i : ℕ) :
    t.utf8[n + i]? = after.utf8[i]? := by
  obtain ⟨before, rfl, rfl⟩ := from?_eq_some_iff.mp h
  rw [utf8_append, ← length_utf8 before, List.getElem?_append_right (Nat.le_add_right _ _),
    Nat.add_sub_cancel_left]

end Place

/-! ## Bytes of ASCII -/

theorem utf8EncodeChar_ascii {c : Char} (h : c.toNat < 128) :
    String.utf8EncodeChar c = [UInt8.ofNat c.toNat] := by
  have hc : c.val.toNat ≤ 127 := Nat.le_of_lt_succ h
  simp only [String.utf8EncodeChar, if_pos hc]
  rfl

/-- The first byte of a character beyond ASCII is none of ASCII. -/
theorem head_utf8EncodeChar {c : Char} (h : 128 ≤ c.toNat) :
    ∃ b bs, String.utf8EncodeChar c = b :: bs ∧ 128 ≤ b.toNat := by
  have hc : ¬c.val.toNat ≤ 127 := Nat.not_le.mpr h
  simp only [String.utf8EncodeChar, if_neg hc]
  split_ifs <;> refine ⟨_, _, rfl, ?_⟩ <;> rw [UInt8.toNat_ofNat'] <;> omega

/-- A class of characters and a class of bytes that are the same class of
ASCII. -/
structure SameAscii (p : UInt8 → Bool) (q : Char → Bool) : Prop where
  ascii : ∀ c : Char, c.toNat < 128 → p (UInt8.ofNat c.toNat) = q c
  byte : ∀ b : UInt8, 128 ≤ b.toNat → p b = false
  char : ∀ c : Char, 128 ≤ c.toNat → q c = false

/-- The first characters of a class of ASCII are the first bytes of the class. -/
theorem takeWhile_utf8 {p : UInt8 → Bool} {q : Char → Bool} (h : SameAscii p q) (t : Text) :
    (utf8 t).takeWhile p = utf8 (t.takeWhile q) := by
  induction t with
  | nil => rfl
  | cons c t ih =>
    have hcons : utf8 (c :: t) = String.utf8EncodeChar c ++ utf8 t := rfl
    rcases Nat.lt_or_ge c.toNat 128 with hc | hc
    · rw [hcons, utf8EncodeChar_ascii hc, List.singleton_append, List.takeWhile_cons,
        List.takeWhile_cons, h.ascii c hc]
      split
      · rw [ih]
        exact (congrArg (· ++ _) (utf8EncodeChar_ascii hc)).symm
      · rfl
    · -- the class ends at a character beyond ASCII
      obtain ⟨b, bs, hbytes, hb⟩ := head_utf8EncodeChar hc
      rw [hcons, hbytes, List.cons_append, List.takeWhile_cons, List.takeWhile_cons, h.byte b hb,
        h.char c hc]
      rfl

theorem sameAscii_beq {c : Char} (h : c.toNat < 128) :
    SameAscii (· == UInt8.ofNat c.toNat) (· == c) where
  ascii d hd := by
    rw [Bool.eq_iff_iff, beq_iff_eq, beq_iff_eq, ← UInt8.toNat_inj, ← Char.toNat_inj,
      UInt8.toNat_ofNat', UInt8.toNat_ofNat']
    omega
  byte b hb := by
    rw [beq_eq_false_iff_ne, ne_eq, ← UInt8.toNat_inj, UInt8.toNat_ofNat']
    omega
  char d hd := by
    rw [beq_eq_false_iff_ne, ne_eq, ← Char.toNat_inj]
    omega

/-- A text begins with a character of ASCII exactly when its bytes begin with
that of the character. -/
theorem head?_utf8_eq_some_iff {c : Char} (h : c.toNat < 128) {t : Text} :
    (utf8 t).head? = some (UInt8.ofNat c.toNat) ↔ t.head? = some c := by
  cases t with
  | nil => simp [utf8]
  | cons d t =>
    have hcons : utf8 (d :: t) = String.utf8EncodeChar d ++ utf8 t := rfl
    have hsame := sameAscii_beq h
    rw [hcons, List.head?_cons, Option.some.injEq]
    rcases Nat.lt_or_ge d.toNat 128 with hd | hd
    · rw [utf8EncodeChar_ascii hd, List.singleton_append, List.head?_cons, Option.some.injEq,
        ← beq_iff_eq, ← beq_iff_eq (a := d)]
      exact Bool.eq_iff_iff.mp (hsame.ascii d hd)
    · obtain ⟨b, bs, hbytes, hb⟩ := head_utf8EncodeChar hd
      rw [hbytes, List.cons_append, List.head?_cons, Option.some.injEq]
      exact iff_of_false (beq_eq_false_iff_ne.mp (hsame.byte b hb))
        (beq_eq_false_iff_ne.mp (hsame.char d hd))

end Text

/-! ## Counting braces and names -/

namespace Braces

variable {brace : Char} {t rest : Text} {b : Braces}

theorem size_text (hbrace : brace.toNat < 128) (b : Braces) :
    Text.size (b.text brace) = b.count := by
  have hsize : brace.utf8Size = 1 := by
    rw [← String.length_utf8EncodeChar, Text.utf8EncodeChar_ascii hbrace, List.length_singleton]
  cases b <;> simp [text, count, List.replicate, hsize]

/-- Of the braces that stand first, no more than two are read. -/
theorem min_size_takeWhile (hbrace : brace.toNat < 128) (h : read? brace t = some (b, rest)) :
    min 2 (Text.size (t.takeWhile (· == brace))) = b.count := by
  have hsize := size_text hbrace b
  obtain ⟨more, htake, hone⟩ : ∃ more : Text,
      t.takeWhile (· == brace) = b.text brace ++ more ∧ (b = .one → more = []) := by
    have hfirst : ∀ c ∈ b.text brace, (c == brace) = true := by
      intro c hc
      exact beq_iff_eq.mpr (List.eq_of_mem_replicate hc)
    refine ⟨rest.takeWhile (· == brace), ?_, ?_⟩
    · rw [eq_append_of_read? h, List.takeWhile_append_of_pos hfirst]
    · rintro rfl
      have hhead := head?_ne_of_read?_one h
      cases rest with
      | nil => rfl
      | cons c rest => exact List.takeWhile_cons_of_neg (by simpa using hhead)
  rw [htake, Text.size_append, hsize]
  cases b with
  | one => rw [hone rfl]; rfl
  | two => exact Nat.min_eq_left (Nat.le_add_right 2 _)

end Braces

/-- The parts that a placeholder is read from. -/
theorem Placeholder.of_read? {t rest : Text} {p : Placeholder} (h : read? t = some (p, rest)) :
    ∃ inner, Braces.read? '\x7b' t = some (p.opening, inner) ∧
      inner.takeWhile isNameChar = p.name ∧ p.name ≠ [] ∧
      Braces.read? '\x7d' (inner.dropWhile isNameChar) = some (p.closing, rest) := by
  unfold read? at h
  split at h
  · cases h
  · next opening inner hopen =>
    simp only at h
    split_ifs at h with hname
    split at h
    · cases h
    · next closing rest' hclose =>
      obtain ⟨rfl, rfl⟩ := Prod.mk.inj (Option.some.inj h)
      exact ⟨inner, hopen, rfl, hname, hclose⟩

theorem Placeholder.size_text (p : Placeholder) :
    p.text.size = p.opening.count + p.name.size + p.closing.count := by
  rw [text, Text.size_append, Text.size_append, Braces.size_text (by decide),
    Braces.size_text (by decide)]

namespace Template

theorem isNameByte_iff {b : UInt8} :
    isNameByte b = true ↔
      65 ≤ b.toNat ∧ b.toNat ≤ 90 ∨ 97 ≤ b.toNat ∧ b.toNat ≤ 122 ∨
        48 ≤ b.toNat ∧ b.toNat ≤ 57 ∨ b.toNat = 95 ∨ b.toNat = 46 := by
  simp only [isNameByte, Bool.or_eq_true, Bool.and_eq_true, decide_eq_true_eq, beq_iff_eq,
    UInt8.le_iff_toNat_le, ← UInt8.toNat_inj, UInt8.reduceToNat, or_assoc]

theorem sameAscii_name : Text.SameAscii isNameByte isNameChar where
  ascii c hc := by
    rw [Bool.eq_iff_iff, isNameByte_iff, isNameChar_iff, UInt8.toNat_ofNat',
      Nat.mod_eq_of_lt (by omega)]
  byte b hb := by
    rw [← Bool.not_eq_true, isNameByte_iff]
    omega
  char c hc := by
    rw [← Bool.not_eq_true, isNameChar_iff]
    omega

theorem length_nameBytes (t : Text) :
    ((Text.utf8 t).takeWhile isNameByte).length = Text.size (t.takeWhile isNameChar) := by
  rw [Text.takeWhile_utf8 sameAscii_name, Text.length_utf8]

/-- The bytes of the closing braces that are read. -/
theorem length_closingBytes (t : Text) :
    (((Text.utf8 t).take 2).takeWhile (· == closingByte)).length =
      ((Braces.read? '\x7d' t).map fun read => read.1.count).getD 0 := by
  have hsame : Text.SameAscii (· == closingByte) (· == '\x7d') :=
    Text.sameAscii_beq (c := '\x7d') (by decide)
  rw [← List.take_takeWhile, List.length_take, Text.takeWhile_utf8 hsame, Text.length_utf8]
  cases hread : Braces.read? '\x7d' t with
  | none =>
    have hhead := Braces.read?_eq_none_iff.mp hread
    cases t with
    | nil => rfl
    | cons c t => rw [List.takeWhile_cons_of_neg (by simpa using hhead)]; rfl
  | some read => exact Braces.min_size_takeWhile (by decide) hread

/-- The byte behind an opening brace tells whether two braces are read. -/
theorem count_opening {template rest inner : Text} {start : ℕ} {opening : Braces}
    (hplace : template.from? start = some rest)
    (hopen : Braces.read? '\x7b' rest = some (opening, inner)) :
    (if template.utf8[start + 1]? = some openingByte then 2 else 1) = opening.count := by
  rw [Text.getElem?_utf8_of_from? hplace, Braces.eq_append_of_read? hopen]
  cases opening with
  | one =>
    have hhead := Braces.head?_ne_of_read?_one hopen
    rw [ne_eq, ← Text.head?_utf8_eq_some_iff (c := '\x7b') (by decide),
      List.head?_eq_getElem?] at hhead
    exact if_neg hhead
  | two => rfl

/-! ## Attempts -/

section Attempt

variable {template rest inner following : Text} {start : ℕ} {opening closing : Braces}

theorem from?_inner (hplace : template.from? start = some rest)
    (hopen : Braces.read? '\x7b' rest = some (opening, inner)) :
    template.from? (start + opening.count) = some inner := by
  rw [Braces.eq_append_of_read? hopen] at hplace
  have hsize : Text.size (opening.text '\x7b') = opening.count :=
    Braces.size_text (by decide) opening
  exact hsize ▸ Text.from?_add hplace

theorem from?_behind (hplace : template.from? start = some rest)
    (hopen : Braces.read? '\x7b' rest = some (opening, inner)) :
    template.from? (start + opening.count + Text.size (inner.takeWhile isNameChar)) =
      some (inner.dropWhile isNameChar) := by
  have hinner := from?_inner hplace hopen
  rw [← List.takeWhile_append_dropWhile (p := isNameChar) (l := inner)] at hinner
  exact Text.from?_add hinner

theorem attempt?_of_name_eq_nil (hplace : template.from? start = some rest)
    (hopen : Braces.read? '\x7b' rest = some (opening, inner))
    (hname : inner.takeWhile isNameChar = []) :
    attempt? template start = some ⟨[start, start + opening.count], none⟩ := by
  rw [attempt?]
  simp only [count_opening hplace hopen, Text.bytesFrom?_of_from? (from?_inner hplace hopen),
    Option.bind_eq_bind, Option.bind_some, length_nameBytes, hname]
  rfl

theorem attempt?_of_closing_eq_none (hplace : template.from? start = some rest)
    (hopen : Braces.read? '\x7b' rest = some (opening, inner))
    (hname : inner.takeWhile isNameChar ≠ [])
    (hclose : Braces.read? '\x7d' (inner.dropWhile isNameChar) = none) :
    attempt? template start = some ⟨[start, start + opening.count,
      start + opening.count + Text.size (inner.takeWhile isNameChar)], none⟩ := by
  have hpos := Text.size_pos_of_ne_nil hname
  rw [attempt?]
  simp only [count_opening hplace hopen, Text.bytesFrom?_of_from? (from?_inner hplace hopen),
    Text.bytesFrom?_of_from? (from?_behind hplace hopen), length_closingBytes, hclose,
    Option.bind_eq_bind, Option.bind_some, length_nameBytes, if_neg (Nat.ne_of_gt hpos)]
  rfl

theorem attempt?_of_read? {p : Placeholder} (hplace : template.from? start = some rest)
    (hread : Placeholder.read? rest = some (p, following)) :
    attempt? template start = some ⟨[start, start + p.opening.count,
      start + p.opening.count + p.name.size, start + p.text.size],
      some (Occurrence.toMatch ⟨p, start⟩)⟩ := by
  obtain ⟨inner, hopen, hname, hne, hclose⟩ := Placeholder.of_read? hread
  have hinner := from?_inner hplace hopen
  have hbehind := from?_behind hplace hopen
  have hraw : template.slice? start (start + p.text.size) = some p.text := by
    rw [Placeholder.eq_append_of_read? hread] at hplace
    exact Text.slice?_of_from? hplace
  have hnameSlice : template.slice? (start + p.opening.count)
      (start + p.opening.count + p.name.size) = some p.name := by
    rw [← List.takeWhile_append_dropWhile (p := isNameChar) (l := inner), hname] at hinner
    exact Text.slice?_of_from? hinner
  have hpos := Text.size_pos_of_ne_nil hne
  have hclosing := p.closing.count_eq
  have hstop : start + p.opening.count + p.name.size + p.closing.count = start + p.text.size := by
    rw [p.size_text, Nat.add_assoc, Nat.add_assoc, Nat.add_assoc]
  rw [hname] at hbehind
  rw [attempt?]
  simp only [count_opening hplace hopen, Text.bytesFrom?_of_from? (from?_inner hplace hopen),
    Option.bind_eq_bind, Option.bind_some, length_nameBytes, hname, if_neg (Nat.ne_of_gt hpos),
    Text.bytesFrom?_of_from? hbehind, length_closingBytes, hclose, Option.map_some,
    Option.getD_some]
  rw [if_neg (by omega), hstop, hraw, hnameSlice]
  rfl

/-- **Attempts.** An attempt at an opening brace succeeds in all accesses. It
finds what reading finds, and it cuts at boundaries in their order. -/
theorem attempt?_eq (hplace : template.from? start = some rest) (hhead : rest.head? = some '\x7b') :
    ∃ attempt, attempt? template start = some attempt ∧ template.CutsWell attempt.cuts ∧
      attempt.found? =
        (Placeholder.read? rest).map fun read => Occurrence.toMatch ⟨read.1, start⟩ := by
  have hstart := Text.isBoundary_of_from? hplace
  cases hread : Placeholder.read? rest with
  | none =>
    obtain ⟨⟨opening, inner⟩, hopen⟩ : ∃ read, Braces.read? '\x7b' rest = some read :=
      Option.ne_none_iff_exists'.mp fun hnone => Braces.read?_eq_none_iff.mp hnone hhead
    have hnameStart := Text.isBoundary_of_from? (from?_inner hplace hopen)
    have hnameEnd := Text.isBoundary_of_from? (from?_behind hplace hopen)
    by_cases hname : inner.takeWhile isNameChar = []
    · refine ⟨_, attempt?_of_name_eq_nil hplace hopen hname, ⟨?_, ?_⟩, rfl⟩
      · simp
      · simp [hstart, hnameStart]
    · have hclose := ((Placeholder.read?_eq_none_iff hopen).mp hread).resolve_left hname
      rw [← Braces.read?_eq_none_iff] at hclose
      refine ⟨_, attempt?_of_closing_eq_none hplace hopen hname hclose, ⟨?_, ?_⟩, rfl⟩
      · simp [Nat.add_assoc]
      · simp [hstart, hnameStart, hnameEnd]
  | some read =>
    obtain ⟨p, following⟩ := read
    obtain ⟨inner, hopen, hname, -, -⟩ := Placeholder.of_read? hread
    have hnameStart := Text.isBoundary_of_from? (from?_inner hplace hopen)
    have hnameEnd := Text.isBoundary_of_from? (from?_behind hplace hopen)
    have hstop : template.IsBoundary (start + p.text.size) := by
      rw [Placeholder.eq_append_of_read? hread] at hplace
      exact Text.isBoundary_of_from? (Text.from?_add hplace)
    rw [hname] at hnameEnd
    refine ⟨_, attempt?_of_read? hplace hread, ⟨?_, ?_⟩, rfl⟩
    · simp [p.size_text, Nat.add_assoc]
    · simp [hstart, hnameStart, hnameEnd, hstop]

end Attempt

end Template

end FormLetter
