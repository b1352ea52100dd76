import FormLetter.Proofs.ByteOrder
import FormLetter.Proofs.NameCase
import FormLetter.Proofs.Scan
import FormLetter.Resolution

/-!
# Resolving is substituting at the spans

Specification: the texts before, between and behind the occurrences of a
template are cut out at their byte offsets (`gapsFrom?`), and a text is woven
from them and one filling per occurrence (`weave`). Values take no part in the
cutting, so nothing in them is ever read.

Results:

* `gapsFrom?_occurrences`: cutting at the spans succeeds.
* `weave_occurrences`: the template with any fillings is woven from the texts
  that are cut out.
* `message_resolve`: so is the message, with what the record has for the
  placeholders.
* `resolve_congr_of_get?`, `resolve_congr_of_lookup`: records that give the same
  for the placeholders, or for their keys, resolve a template alike.
* `resolve_eq_weave`: a resolved template is woven from the values of the
  variables, and the names that it reports are those that the record lacks.
-/

namespace FormLetter

/-! ## Specification -/

/-- The texts from the byte offset `cursor` on that stand before, between and
behind some occurrences, if they can be cut out at the offsets. -/
def Template.gapsFrom? (template : Text) : ℕ → List Occurrence → Option (List Text)
  | cursor, [] => (template.slice? cursor template.size).map ([·])
  | cursor, o :: occs =>
    match template.slice? cursor o.start, gapsFrom? template o.stop occs with
    | some gap, some gaps => some (gap :: gaps)
    | _, _ => none

/-- The first text, the first filling, the second text, and so on. -/
def weave : List Text → List Text → Text
  | gap :: gaps, filling :: fillings => gap ++ filling ++ weave gaps fillings
  | gaps, _ => gaps.flatten

theorem weave_cons_cons (c : Char) (gap : Text) (gaps fillings : List Text) :
    weave ((c :: gap) :: gaps) fillings = c :: weave (gap :: gaps) fillings := by
  cases fillings <;> rfl

/-! ## Pieces -/

namespace Piece

/-- A piece whose placeholder gives way to a text. -/
def fillWith (value : Placeholder → Text) : Piece → Text
  | literal c => [c]
  | placeholder p => value p

theorem fillWith_text : fillWith Placeholder.text = text := by
  funext piece
  cases piece <;> rfl

/-- The text before the first placeholder among some pieces, and the text
behind every placeholder up to the next. -/
def gapTexts : List Piece → Text × List Text
  | [] => ([], [])
  | .literal c :: ps => (c :: (gapTexts ps).1, (gapTexts ps).2)
  | .placeholder _ :: ps => ([], (gapTexts ps).1 :: (gapTexts ps).2)

/-- Filled pieces are woven from the texts around the placeholders. -/
theorem weave_gapTexts (value : Placeholder → Text) (ps : List Piece) :
    weave ((gapTexts ps).1 :: (gapTexts ps).2) ((ps.filterMap placeholder?).map value) =
      ps.flatMap (fillWith value) := by
  induction ps with
  | nil => rfl
  | cons piece ps ih =>
    cases piece with
    | literal c =>
      rw [gapTexts, weave_cons_cons]
      exact congrArg (c :: ·) ih
    | placeholder p => exact congrArg (value p ++ ·) ih

theorem length_gapTexts (ps : List Piece) :
    (gapTexts ps).2.length = (ps.filterMap placeholder?).length := by
  induction ps with
  | nil => rfl
  | cons piece ps ih =>
    cases piece with
    | literal c => exact ih
    | placeholder p => exact congrArg (· + 1) ih

end Piece

/-! ## Cutting at the spans -/

namespace Template

theorem map_placeholder_locate (offset : ℕ) (ps : List Piece) :
    (locate offset ps).map Occurrence.placeholder = ps.filterMap Piece.placeholder? := by
  induction ps generalizing offset with
  | nil => rfl
  | cons piece ps ih =>
    cases piece with
    | literal c => exact ih _
    | placeholder p => exact congrArg (p :: ·) (ih _)

theorem map_placeholder_occurrences (template : Text) :
    (occurrences template).map Occurrence.placeholder = placeholders template :=
  map_placeholder_locate 0 _

theorem isName_of_mem_placeholders {template : Text} {p : Placeholder}
    (h : p ∈ placeholders template) : isName p.name = true := by
  rw [← map_placeholder_occurrences] at h
  obtain ⟨o, ho, rfl⟩ := List.mem_map.mp h
  exact (isScan_occurrences template).isName_name o ho

/-- The invariant of cutting: `before` ends where the last occurrence ended,
and `literals` has been passed since. -/
theorem gapsFrom?_locate {template : Text} (before literals : Text) {ps : List Piece}
    (ht : template = before ++ (literals ++ ps.flatMap Piece.text)) :
    gapsFrom? template before.size (locate (before.size + literals.size) ps) =
      some ((literals ++ (Piece.gapTexts ps).1) :: (Piece.gapTexts ps).2) := by
  induction ps generalizing before literals with
  | nil =>
    have hslice : template.slice? before.size template.size = some literals := by
      rw [Text.slice?_eq_some_iff]
      exact ⟨before, [], by simpa using ht, rfl, by simp [ht]⟩
    rw [locate, gapsFrom?, hslice, Option.map_some, Piece.gapTexts, List.append_nil]
  | cons piece ps ih =>
    cases piece with
    | literal c =>
      have hoffset : before.size + literals.size + c.utf8Size =
          before.size + (literals ++ [c]).size := by
        simp [Nat.add_assoc]
      rw [locate, hoffset, ih before (literals ++ [c]) (by simpa [Piece.text] using ht)]
      simp [Piece.gapTexts]
    | placeholder p =>
      have hslice : template.slice? before.size (before.size + literals.size) = some literals := by
        rw [ht, ← List.append_assoc]
        exact Text.slice?_append _ _ _
      have hstop : before.size + literals.size + p.text.size =
          (before ++ literals ++ p.text).size := by
        rw [Text.size_append, Text.size_append]
      -- behind the placeholder, nothing has been passed yet
      have hrest := ih (before ++ literals ++ p.text) [] (by simpa [Piece.text] using ht)
      rw [Text.size_nil, Nat.add_zero] at hrest
      rw [locate, gapsFrom?, Occurrence.stop, hslice, hstop, hrest]
      simp [Piece.gapTexts]

theorem gapsFrom?_occurrences (template : Text) :
    gapsFrom? template 0 (occurrences template) =
      some ((Piece.gapTexts (pieces template)).1 :: (Piece.gapTexts (pieces template)).2) :=
  gapsFrom?_locate [] [] (flatMap_text_pieces template).symm

/-- The template with any fillings is woven from the texts around its
occurrences. -/
theorem weave_occurrences (value : Placeholder → Text) (template : Text) :
    weave ((Piece.gapTexts (pieces template)).1 :: (Piece.gapTexts (pieces template)).2)
        ((occurrences template).map fun o => value o.placeholder) =
      (pieces template).flatMap (Piece.fillWith value) := by
  rw [← Piece.weave_gapTexts, ← map_placeholder_locate 0, List.map_map]
  rfl

end Template

/-! ## Values -/

namespace Record

theorem get?_name (record : Record) {p : Placeholder} (h : isName p.name = true) :
    record.get? p.name = record.entries.lookup p.key := by
  rw [get?, Placeholder.lower_name h]

theorem get?_key (record : Record) {p : Placeholder} (h : isName p.name = true) :
    record.get? p.key = record.entries.lookup p.key := by
  rw [get?, Placeholder.lower_key h]

theorem fillWith_get (record : Record) :
    Piece.fillWith (fun p => record.get p.name) = record.fill := by
  funext piece
  cases piece <;> rfl

/-- The message is woven from what the record has for the placeholders. -/
theorem message_resolve (record : Record) (template : Text) :
    (record.resolve template).message =
      weave ((Piece.gapTexts (Template.pieces template)).1 ::
          (Piece.gapTexts (Template.pieces template)).2)
        ((Template.placeholders template).map fun p => record.get p.name) := by
  rw [Template.placeholders, Piece.weave_gapTexts, fillWith_get]
  rfl

/-- A template sees of a record what it gives for the placeholders. -/
theorem resolve_congr_of_get? {record other : Record} {template : Text}
    (h : ∀ p ∈ Template.placeholders template, record.get? p.name = other.get? p.name) :
    record.resolve template = other.resolve template := by
  have hvalues : (Template.placeholders template).map (fun p => record.get p.name) =
      (Template.placeholders template).map fun p => other.get p.name := by
    refine List.map_congr_left fun p hp => ?_
    rw [get, get, h p hp]
  have hlacking : (Template.placeholders template).filterMap record.lacking? =
      (Template.placeholders template).filterMap other.lacking? := by
    refine List.filterMap_congr fun p hp => ?_
    rw [lacking?, lacking?, h p hp]
  rw [Resolution.mk.injEq]
  refine ⟨?_, congrArg Names.ofList hlacking⟩
  rw [message_resolve, message_resolve, hvalues]

/-- Placeholders are looked up under their keys. -/
theorem resolve_congr_of_lookup {record other : Record} {template : Text}
    (h : ∀ p ∈ Template.placeholders template,
      record.entries.lookup p.key = other.entries.lookup p.key) :
    record.resolve template = other.resolve template := by
  refine resolve_congr_of_get? fun p hp => ?_
  have hname := Template.isName_of_mem_placeholders hp
  rw [get?_name _ hname, get?_name _ hname, h p hp]

theorem mem_unknown {record : Record} {template name : Text} :
    name ∈ (record.resolve template).unknown ↔
      (∃ p ∈ Template.placeholders template, p.key = name) ∧
        record.entries.lookup name = none := by
  unfold resolve
  rw [Names.mem_ofList, List.mem_filterMap]
  simp only [lacking?, Option.ite_none_right_eq_some, Option.isNone_iff_eq_none,
    Option.some.injEq]
  constructor
  · rintro ⟨p, hp, hnone, rfl⟩
    rw [get?_name record (Template.isName_of_mem_placeholders hp)] at hnone
    exact ⟨⟨p, hp, rfl⟩, hnone⟩
  · rintro ⟨⟨p, hp, rfl⟩, hnone⟩
    refine ⟨p, hp, ?_, rfl⟩
    rw [get?_name record (Template.isName_of_mem_placeholders hp), hnone]

/-- **Resolving.** The texts around the occurrences of a template are cut out
at the byte offsets of the occurrences, and together with what is written in
them they are the template. The message has in the place of every occurrence
the value of its key, and nothing if there is none; the names reported are the
keys without a value, in the order of their bytes. -/
theorem resolve_eq_weave (record : Record) (template : Text) :
    ∃ gaps,
      Template.gapsFrom? template 0 (Template.occurrences template) = some gaps ∧
      gaps.length = (Template.occurrences template).length + 1 ∧
      weave gaps ((Template.occurrences template).map fun o => o.placeholder.text) = template ∧
      (record.resolve template).message =
        weave gaps ((Template.occurrences template).map fun o =>
          (record.entries.lookup o.placeholder.key).getD []) ∧
      ((record.resolve template).unknown.map Text.utf8).Pairwise (· < ·) ∧
      ∀ name, name ∈ (record.resolve template).unknown ↔
        (∃ o ∈ Template.occurrences template, o.placeholder.key = name) ∧
          record.entries.lookup name = none := by
  refine ⟨_, Template.gapsFrom?_occurrences template, ?_, ?_, ?_, ?_, fun name => ?_⟩
  · rw [List.length_cons, Piece.length_gapTexts, ← Template.map_placeholder_locate 0,
      List.length_map]
    rfl
  · rw [Template.weave_occurrences Placeholder.text, Piece.fillWith_text,
      Template.flatMap_text_pieces]
  · have hvalues : ((Template.occurrences template).map fun o =>
        (record.entries.lookup o.placeholder.key).getD []) =
          (Template.occurrences template).map fun o => record.get o.placeholder.name := by
      apply List.map_congr_left
      intro o ho
      rw [get, get?_name record ((Template.isScan_occurrences template).isName_name o ho)]
    rw [hvalues, Template.weave_occurrences fun p => record.get p.name, fillWith_get]
    rfl
  · exact Text.pairwise_utf8 (Names.pairwise_ofList _)
  · rw [mem_unknown, ← Template.map_placeholder_occurrences]
    simp only [List.mem_map, exists_exists_and_eq_and]

end Record

end FormLetter
