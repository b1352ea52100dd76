/-!
# Text

Text is a list of characters. This module holds what the rest of the library does with text as
such: its size in bytes, cutting it at a separator and joining the parts again, and classes of
characters as intervals of their code points.

Results:

* `length_utf8`: the size of a text is the number of its UTF-8 bytes.
* `size_append`: sizes add up.
* `join_split`: joining the parts of a text restores it.
-/

namespace FormLetter

/-- A piece of text, character by character. -/
abbrev Text := List Char

namespace Text

/-! ## Bytes -/

/-- The UTF-8 bytes of a text. -/
def utf8 (t : Text) : List UInt8 := t.flatMap String.utf8EncodeChar

/-- How many bytes a text takes in UTF-8. -/
def size (t : Text) : Nat := t.foldr (fun c n => c.utf8Size + n) 0

@[simp] theorem size_nil : size [] = 0 := rfl

@[simp] theorem size_cons (c : Char) (t : Text) : size (c :: t) = c.utf8Size + size t := rfl

@[simp] theorem size_append (s t : Text) : size (s ++ t) = size s + size t := by
  induction s with
  | nil => simp
  | cons c s ih => simp [ih, Nat.add_assoc]

theorem length_utf8 (t : Text) : (utf8 t).length = size t := by
  induction t with
  | nil => rfl
  | cons c t ih => simp_all [utf8]

/-! ## Cutting and joining -/

/-- The text before the first separator, and the texts that follow the separators one by one. -/
def split (sep : Char) : Text → Text × List Text
  | [] => ([], [])
  | c :: rest =>
    let parts := split sep rest
    if c = sep then ([], parts.1 :: parts.2) else (c :: parts.1, parts.2)

/-- The texts before and after the first separator. -/
def cut? (sep : Char) : Text → Option (Text × Text)
  | [] => none
  | c :: rest =>
    if c = sep then some ([], rest) else (cut? sep rest).map fun sides => (c :: sides.1, sides.2)

/-- A first text, and every further one after a separator. -/
def join (sep : Char) (first : Text) (others : List Text) : Text :=
  first ++ others.flatMap (sep :: ·)

theorem join_split (sep : Char) (t : Text) : join sep (split sep t).1 (split sep t).2 = t := by
  induction t with
  | nil => rfl
  | cons c t ih =>
    by_cases h : c = sep
    · simpa [split, h, join] using ih
    · simpa [split, h, join] using ih

theorem cut?_eq_none_iff {sep : Char} {t : Text} : cut? sep t = none ↔ sep ∉ t := by
  induction t with
  | nil => simp [cut?]
  | cons c t ih =>
    by_cases h : c = sep
    · simp [cut?, h]
    · simp [cut?, h, ih, Ne.symm h]

theorem eq_of_cut? {sep : Char} {t left right : Text} (h : cut? sep t = some (left, right)) :
    t = left ++ sep :: right ∧ sep ∉ left := by
  induction t generalizing left with
  | nil => simp [cut?] at h
  | cons c t ih =>
    by_cases hc : c = sep
    · simp only [cut?, hc, if_true, Option.some.injEq, Prod.mk.injEq] at h
      simp [← h.1, ← h.2, hc]
    · simp only [cut?, hc, if_false, Option.map_eq_some_iff, Prod.exists] at h
      obtain ⟨l, r, hl, he⟩ := h
      obtain ⟨rfl, rfl⟩ := Prod.mk.inj he
      obtain ⟨ht, hs⟩ := ih hl
      simp [← ht, hs, Ne.symm hc]

/-! ## Beginnings -/

/-- The text without a byte order mark in front. -/
def withoutMark : Text → Text
  | '\uFEFF' :: rest => rest
  | t => t

/-! ## Classes of characters -/

/-- Closed intervals of code points. -/
abbrev CodeRanges := List (Nat × Nat)

/-- Whether one of the intervals holds `n`. -/
def CodeRanges.covers (ranges : CodeRanges) (n : Nat) : Bool :=
  ranges.any fun r => r.1 ≤ n && n ≤ r.2

/-! ## Letters of ASCII -/

/-- The text with the letters `A` to `Z` in lower case: `normalize_name`. -/
def asciiLower (t : Text) : Text := t.map Char.toLower

/-! ## Numerals -/

/-- The decimal numeral of a number. -/
def ofNat (n : Nat) : Text := Nat.toDigits 10 n

/-- The decimal numeral of an integer, with a sign if it is negative. -/
def ofInt (n : Int) : Text := if n < 0 then '-' :: ofNat n.natAbs else ofNat n.natAbs

/-- The decimal numeral of a number, filled up with zeros to a width. -/
def padded (width n : Nat) : Text :=
  let digits := ofNat n
  List.replicate (width - digits.length) '0' ++ digits

/-- The number that decimal digits denote. -/
def digitsValue (digits : Text) : Nat :=
  digits.foldl (fun n d => 10 * n + (d.toNat - '0'.toNat)) 0

end Text

end FormLetter
