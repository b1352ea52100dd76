import FormLetter.Template

/-!
# Reading a template step by step

A cursor stands at some place of a template and moves to the end of the next placeholder at every
step. Once no placeholder is left it stays at the end of the template.

Results:

* `fst_next_eq_head?`, `remaining_snd_next`: a step yields the first placeholder that remains and
  leaves the others.
-/

namespace FormLetter

/-- A place in a template: the number of bytes before it and the text after it. This is the state
of the iterator `Placeholders`. -/
structure Cursor where
  offset : Nat
  rest : Text
  deriving DecidableEq, Repr

namespace Cursor

/-- The beginning of a template, where the iterator that `placeholders` returns stands. -/
def ofTemplate (t : Text) : Cursor := ⟨0, t⟩

/-- The first placeholder of a text that stands after `offset` bytes, and the place behind it; the
end of the text if it has no placeholder. -/
def seek (offset : Nat) : Text → Option Occurrence × Cursor
  | [] => (none, ⟨offset, []⟩)
  | c :: following =>
    match Placeholder.read? (c :: following) with
    | some (p, rest) => (some ⟨p, offset⟩, ⟨offset + p.text.size, rest⟩)
    | none => seek (offset + c.utf8Size) following

/-- Moves to the end of the next placeholder and yields it: `next` of `Placeholders`. -/
def next (cursor : Cursor) : Option Occurrence × Cursor := seek cursor.offset cursor.rest

/-- The placeholders from the cursor on. -/
def remaining (cursor : Cursor) : List Occurrence :=
  Template.locate cursor.offset (Template.pieces cursor.rest)

theorem fst_next_eq_head? (cursor : Cursor) : cursor.next.1 = cursor.remaining.head? := by
  obtain ⟨offset, rest⟩ := cursor
  simp only [next, remaining]
  induction rest generalizing offset with
  | nil => simp [seek, Template.locate]
  | cons c following ih =>
    rw [seek]
    split
    · next p rest h => simp [Template.pieces_of_read? h, Template.locate]
    · next h => simp [Template.pieces_of_read?_eq_none h, Template.locate, ih]

theorem remaining_snd_next (cursor : Cursor) : cursor.next.2.remaining = cursor.remaining.tail := by
  obtain ⟨offset, rest⟩ := cursor
  simp only [next, remaining]
  induction rest generalizing offset with
  | nil => simp [seek, Template.locate]
  | cons c following ih =>
    rw [seek]
    split
    · next p rest h => simp [Template.pieces_of_read? h, Template.locate]
    · next h => simp [Template.pieces_of_read?_eq_none h, Template.locate, ih]

end Cursor

end FormLetter
