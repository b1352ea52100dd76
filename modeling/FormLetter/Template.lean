import FormLetter.Placeholder

/-!
# Templates

A template is text with placeholders in it. Read from left to right, it falls into pieces: a
placeholder wherever one can be read, and single characters elsewhere. What a placeholder has used
up is not read again.

Results:

* `flatMap_text_pieces`: the pieces, written out one after the other, are the template.
-/

namespace FormLetter

/-- A placeholder or a character outside all placeholders. -/
inductive Piece
  | literal (c : Char)
  | placeholder (p : Placeholder)
  deriving DecidableEq, Repr

namespace Piece

/-- The piece as it stands in the template. -/
def text : Piece → Text
  | literal c => [c]
  | placeholder p => p.text

/-- The placeholder, if the piece is one. -/
def placeholder? : Piece → Option Placeholder
  | literal _ => none
  | placeholder p => some p

end Piece

/-- A placeholder and where it stands in a template. -/
structure Occurrence where
  placeholder : Placeholder
  /-- The number of bytes before the placeholder. -/
  start : Nat
  deriving DecidableEq, Repr

/-- The number of bytes up to the end of the placeholder. -/
def Occurrence.stop (o : Occurrence) : Nat := o.start + o.placeholder.text.size

namespace Template

/-- The pieces of a template from left to right. -/
def pieces (t : Text) : List Piece :=
  match t with
  | [] => []
  | c :: following =>
    match _h : Placeholder.read? (c :: following) with
    | some (p, rest) => .placeholder p :: pieces rest
    | none => .literal c :: pieces following
termination_by t.length
decreasing_by
  · exact Placeholder.length_rest_lt _h
  · simp

@[simp] theorem pieces_nil : pieces [] = [] := by simp [pieces]

theorem pieces_of_read? {t rest : Text} {p : Placeholder}
    (h : Placeholder.read? t = some (p, rest)) : pieces t = .placeholder p :: pieces rest := by
  cases t with
  | nil => simp [Placeholder.read?, Braces.read?] at h
  | cons c following =>
    rw [pieces]
    split
    · next p' rest' h' =>
      rw [h] at h'
      obtain ⟨rfl, rfl⟩ := Prod.mk.inj (Option.some.inj h')
      rfl
    · next h' => simp [h] at h'

theorem pieces_of_read?_eq_none {c : Char} {following : Text}
    (h : Placeholder.read? (c :: following) = none) :
    pieces (c :: following) = .literal c :: pieces following := by
  rw [pieces]
  split
  · next h' => simp [h] at h'
  · rfl

theorem flatMap_text_pieces (t : Text) : (pieces t).flatMap Piece.text = t := by
  fun_induction pieces t with
  | case1 => rfl
  | case2 c following p rest h ih =>
    simp only [List.flatMap_cons, ih, Piece.text]
    exact (Placeholder.eq_append_of_read? h).symm
  | case3 c following h ih => simp [ih, Piece.text]

/-- The placeholders of a template from left to right. -/
def placeholders (t : Text) : List Placeholder := (pieces t).filterMap Piece.placeholder?

/-- The placeholders among some pieces, of which the first stands after `offset` bytes. -/
def locate (offset : Nat) : List Piece → List Occurrence
  | [] => []
  | .literal c :: rest => locate (offset + c.utf8Size) rest
  | .placeholder p :: rest => ⟨p, offset⟩ :: locate (offset + p.text.size) rest

/-- The placeholders of a template from left to right, with where they stand: what
`placeholders` iterates over. -/
def occurrences (t : Text) : List Occurrence := locate 0 (pieces t)

end Template

end FormLetter
