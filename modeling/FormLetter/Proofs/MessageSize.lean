import FormLetter.Proofs.Substitution
import Mathlib.Algebra.GroupWithZero.Nat
import Mathlib.Algebra.Order.BigOperators.Group.List
import Mathlib.Algebra.Order.Group.Nat

/-!
# The size of a message

Resolving trades the bytes of the placeholders for those of the values, and
keeps all others.

Results:

* `size_message_resolve`: the size of a message is that of its template, less
  the placeholders and with the values.
* `size_message_lt`: of two messages made from one template, the one with the
  longer values is the longer one.
-/

namespace FormLetter

theorem Piece.size_flatMap_fillWith (value : Placeholder → Text) (ps : List Piece) :
    Text.size (ps.flatMap (fillWith value)) +
        ((ps.filterMap placeholder?).map fun p => p.text.size).sum =
      Text.size (ps.flatMap text) + ((ps.filterMap placeholder?).map fun p => (value p).size).sum := by
  induction ps with
  | nil => rfl
  | cons piece ps ih =>
    cases piece with
    | literal c =>
      simp only [List.flatMap_cons, List.filterMap_cons, fillWith, text, placeholder?,
        Text.size_append]
      omega
    | placeholder p =>
      simp only [List.flatMap_cons, List.filterMap_cons, fillWith, text, placeholder?,
        Text.size_append, List.map_cons, List.sum_cons]
      omega

namespace Record

/-- The bytes of a message and of the placeholders of its template are those of
the template and of the values. -/
theorem size_message_resolve (record : Record) (template : Text) :
    (record.resolve template).message.size +
        ((Template.placeholders template).map fun p => p.text.size).sum =
      template.size + ((Template.placeholders template).map fun p => (record.get p.name).size).sum := by
  have hsize := Piece.size_flatMap_fillWith (fun p => record.get p.name) (Template.pieces template)
  rwa [fillWith_get, Template.flatMap_text_pieces] at hsize

theorem size_message_lt {record other : Record} {template : Text}
    (hle : ∀ p ∈ Template.placeholders template,
      (record.get p.name).size ≤ (other.get p.name).size)
    (hlt : ∃ p ∈ Template.placeholders template,
      (record.get p.name).size < (other.get p.name).size) :
    (record.resolve template).message.size < (other.resolve template).message.size := by
  have hrecord := record.size_message_resolve template
  have hother := other.size_message_resolve template
  have hsum := List.sum_lt_sum (fun p : Placeholder => (record.get p.name).size)
    (fun p => (other.get p.name).size) hle hlt
  omega

end Record

end FormLetter
