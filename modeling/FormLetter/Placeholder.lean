import FormLetter.Text.Basic

/-!
# Placeholders

A placeholder stands in a template for a variable: one or two opening braces, a name, and one or
two closing braces. The two sides need not have the same number of braces, and reading takes two
braces wherever two stand.

Results:

* `eq_append_of_read?`: what is read, followed by what is left, is the text itself.
* `length_rest_lt`: reading a placeholder uses up some of the text.
-/

namespace FormLetter

/-! ## Braces -/

/-- How many braces stand on one side of a placeholder. -/
inductive Braces
  | one
  | two
  deriving DecidableEq, Repr

namespace Braces

/-- The number of braces. -/
def count : Braces → Nat
  | one => 1
  | two => 2

/-- The braces, written out. -/
def text (brace : Char) (b : Braces) : Text := List.replicate b.count brace

/-- Reads two braces if two stand first, otherwise one, with the text that follows. -/
def read? (brace : Char) : Text → Option (Braces × Text)
  | [] => none
  | [c] => if c = brace then some (one, []) else none
  | c :: d :: rest =>
    if c = brace then
      if d = brace then some (two, rest) else some (one, d :: rest)
    else none

theorem eq_append_of_read? {brace : Char} {t rest : Text} {b : Braces}
    (h : read? brace t = some (b, rest)) : t = b.text brace ++ rest := by
  match t with
  | [] => simp [read?] at h
  | [c] =>
    simp only [read?, Option.ite_none_right_eq_some, Option.some.injEq, Prod.mk.injEq] at h
    obtain ⟨rfl, rfl, rfl⟩ := h
    rfl
  | c :: d :: t =>
    simp only [read?, Option.ite_none_right_eq_some] at h
    obtain ⟨rfl, h⟩ := h
    split at h
    · next hd =>
      obtain ⟨rfl, rfl⟩ := Prod.mk.inj (Option.some.inj h)
      simp [text, count, List.replicate, hd]
    · obtain ⟨rfl, rfl⟩ := Prod.mk.inj (Option.some.inj h)
      simp [text, count]

end Braces

/-! ## Names -/

/-- The letters and digits of ASCII, the underscore and the full stop: `is_name_byte`. -/
def isNameChar (c : Char) : Bool := c.isAlphanum || c == '_' || c == '.'

/-- Whether a text can stand between the braces of a placeholder: `is_valid_name`. -/
def isName (t : Text) : Bool := !t.isEmpty && t.all isNameChar

/-! ## Placeholders -/

/-- A placeholder as it is spelled. -/
structure Placeholder where
  opening : Braces
  name : Text
  closing : Braces
  deriving DecidableEq, Repr

namespace Placeholder

/-- The placeholder, written out. -/
def text (p : Placeholder) : Text := p.opening.text '\x7b' ++ p.name ++ p.closing.text '\x7d'

/-- The name in lower case, under which its uses are counted and reported: `Placeholder::key`. -/
def key (p : Placeholder) : Text := p.name.asciiLower

/-- One brace on each side: `is_single_brace`. -/
def isSingle (p : Placeholder) : Bool := p.opening = .one && p.closing = .one

/-- Two braces on each side: `is_double_brace`. -/
def isDouble (p : Placeholder) : Bool := p.opening = .two && p.closing = .two

/-- Reads the placeholder at the start of a text, with the text that follows it: `match_at`. -/
def read? (t : Text) : Option (Placeholder × Text) :=
  match Braces.read? '\x7b' t with
  | none => none
  | some (opening, inner) =>
    let name := inner.takeWhile isNameChar
    if name = [] then none
    else
      match Braces.read? '\x7d' (inner.dropWhile isNameChar) with
      | none => none
      | some (closing, rest) => some (⟨opening, name, closing⟩, rest)

theorem eq_append_of_read? {t rest : Text} {p : Placeholder} (h : read? t = some (p, rest)) :
    t = p.text ++ rest := by
  unfold read? at h
  split at h
  · simp at h
  · next opening inner hopen =>
    simp only at h
    split at h
    · simp at h
    · split at h
      · simp at h
      · next closing rest' hclose =>
        obtain ⟨rfl, rfl⟩ := Prod.mk.inj (Option.some.inj h)
        rw [Braces.eq_append_of_read? hopen]
        conv => lhs; rw [← List.takeWhile_append_dropWhile (p := isNameChar) (l := inner)]
        rw [Braces.eq_append_of_read? hclose]
        simp [text]

theorem length_text_pos (p : Placeholder) : 0 < p.text.length := by
  cases p with
  | mk opening name closing => cases opening <;> simp [text, Braces.text, Braces.count]

theorem length_rest_lt {t rest : Text} {p : Placeholder} (h : read? t = some (p, rest)) :
    rest.length < t.length := by
  have hlen := congrArg List.length (eq_append_of_read? h)
  have hpos := length_text_pos p
  simp only [List.length_append] at hlen
  omega

end Placeholder

end FormLetter
