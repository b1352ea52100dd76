import FormLetter.Proofs.Respelling

/-!
# Printed templates are read back

A template can be put together from placeholders and texts without braces. What
is printed is read as it was meant: a name ends at a brace, two braces that are
read as a pair were printed as one, and the closing braces of a placeholder are
told from the opening braces of the next.

Specification: a `Layout` is a text and placeholders with the texts behind them;
`Layout.text` prints it, and `Layout.offset` is where a placeholder is printed.

Results:

* `pieces_text`: the pieces of a printed layout are those that were printed.
* `start_of_getElem?_locate`: placeholders are found where they are printed.
* `layout_is_read_back`: the placeholders and the texts of a layout are read
  back, and the names of placeholders are those that a template can have between
  two braces.
-/

namespace FormLetter

/-! ## Specification -/

/-- A text, and placeholders with the text behind each of them. -/
structure Layout where
  front : Text
  parts : List (Placeholder × Text)
  deriving DecidableEq, Repr

namespace Layout

/-- Placeholders and the texts behind them, written out. -/
def partsText (parts : List (Placeholder × Text)) : Text :=
  parts.flatMap fun part => part.1.text ++ part.2

/-- The layout, written out. -/
def text (l : Layout) : Text := l.front ++ partsText l.parts

/-- The placeholders from left to right. -/
def placeholders (l : Layout) : List Placeholder := l.parts.map Prod.fst

/-- The texts before, between and behind the placeholders. -/
def gaps (l : Layout) : List Text := l.front :: l.parts.map Prod.snd

/-- The number of bytes printed before the placeholder at an index. -/
def offset (l : Layout) (index : ℕ) : ℕ := Text.size (text ⟨l.front, l.parts.take index⟩)

/-- The texts have no braces, and the placeholders have names. -/
structure IsPrintable (l : Layout) : Prop where
  opening_notMem : ∀ gap ∈ l.gaps, '\x7b' ∉ gap
  closing_notMem : ∀ gap ∈ l.gaps, '\x7d' ∉ gap
  isName_name : ∀ p ∈ l.placeholders, isName p.name = true

instance (l : Layout) : Decidable l.IsPrintable :=
  decidable_of_iff ((∀ gap ∈ l.gaps, '\x7b' ∉ gap) ∧ (∀ gap ∈ l.gaps, '\x7d' ∉ gap) ∧
      ∀ p ∈ l.placeholders, isName p.name = true)
    ⟨fun h => ⟨h.1, h.2.1, h.2.2⟩, fun h => ⟨h.1, h.2, h.3⟩⟩

end Layout

/-! ## Texts between placeholders -/

namespace Template

/-- Up to the first opening brace, characters stand for themselves. -/
theorem pieces_append_of_notMem {s : Text} (h : '\x7b' ∉ s) (t : Text) :
    pieces (s ++ t) = s.map .literal ++ pieces t := by
  induction s with
  | nil => rfl
  | cons c s ih =>
    obtain ⟨hc, hs⟩ := List.ne_and_not_mem_of_not_mem_cons h
    rw [List.cons_append, pieces_of_read?_eq_none (Placeholder.read?_cons_of_ne hc.symm _), ih hs]
    rfl

theorem locate_map_literal_append (offset : ℕ) (s : Text) (ps : List Piece) :
    locate offset (s.map .literal ++ ps) = locate (offset + s.size) ps := by
  induction s generalizing offset with
  | nil => rfl
  | cons c s ih => rw [List.map_cons, List.cons_append, locate, ih, Text.size_cons, Nat.add_assoc]

end Template

theorem Piece.gapTexts_map_literal_append (s : Text) (ps : List Piece) :
    gapTexts (s.map literal ++ ps) = (s ++ (gapTexts ps).1, (gapTexts ps).2) := by
  induction s with
  | nil => rfl
  | cons c s ih => rw [List.map_cons, List.cons_append, gapTexts, ih, List.cons_append]

theorem Piece.filterMap_placeholder?_map_literal_append (s : Text) (ps : List Piece) :
    (s.map literal ++ ps).filterMap placeholder? = ps.filterMap placeholder? := by
  induction s with
  | nil => rfl
  | cons c s ih => exact ih

/-! ## Pieces of a layout -/

namespace Layout

/-- Placeholders and the texts behind them as pieces. -/
def partsPieces (parts : List (Placeholder × Text)) : List Piece :=
  parts.flatMap fun part => .placeholder part.1 :: part.2.map .literal

theorem partsPieces_cons (p : Placeholder) (gap : Text) (parts : List (Placeholder × Text)) :
    partsPieces ((p, gap) :: parts) =
      .placeholder p :: (gap.map .literal ++ partsPieces parts) := rfl

theorem partsText_cons (p : Placeholder) (gap : Text) (parts : List (Placeholder × Text)) :
    partsText ((p, gap) :: parts) = p.text ++ (gap ++ partsText parts) := by
  rw [partsText, List.flatMap_cons, List.append_assoc]
  rfl

/-- What follows a placeholder is no closing brace. -/
theorem head?_gap_append_ne {gap : Text} (h : '\x7d' ∉ gap) (parts : List (Placeholder × Text)) :
    (gap ++ partsText parts).head? ≠ some '\x7d' := by
  cases gap with
  | nil =>
    cases parts with
    | nil => exact nofun
    | cons part parts =>
      -- the next placeholder begins with an opening brace
      obtain ⟨rest, hp⟩ := part.1.exists_text_eq_cons
      rw [List.nil_append, partsText_cons, hp, List.cons_append, List.head?_cons]
      decide
  | cons c gap =>
    obtain ⟨hc, -⟩ := List.ne_and_not_mem_of_not_mem_cons h
    simpa using hc.symm

theorem pieces_partsText {parts : List (Placeholder × Text)}
    (hgaps : ∀ part ∈ parts, '\x7b' ∉ part.2 ∧ '\x7d' ∉ part.2)
    (hnames : ∀ part ∈ parts, isName part.1.name = true) :
    Template.pieces (partsText parts) = partsPieces parts := by
  induction parts with
  | nil => exact Template.pieces_nil
  | cons part parts ih =>
    obtain ⟨p, gap⟩ := part
    obtain ⟨⟨hopening, hclosing⟩, hgaps⟩ := List.forall_mem_cons.mp hgaps
    obtain ⟨hname, hnames⟩ := List.forall_mem_cons.mp hnames
    have hread : Placeholder.read? (p.text ++ (gap ++ partsText parts)) =
        some (p, gap ++ partsText parts) :=
      Placeholder.read?_text_append hname fun _ => head?_gap_append_ne hclosing parts
    rw [partsText_cons, Template.pieces_of_read? hread,
      Template.pieces_append_of_notMem hopening, ih hgaps hnames, partsPieces_cons]

theorem pieces_text {l : Layout} (h : l.IsPrintable) :
    Template.pieces l.text = l.front.map .literal ++ partsPieces l.parts := by
  have hgap {part : Placeholder × Text} (hpart : part ∈ l.parts) : part.2 ∈ l.gaps :=
    List.mem_cons_of_mem _ (List.mem_map_of_mem hpart)
  have hparts : Template.pieces (partsText l.parts) = partsPieces l.parts :=
    pieces_partsText
      (fun part hpart => ⟨h.opening_notMem _ (hgap hpart), h.closing_notMem _ (hgap hpart)⟩)
      (fun part hpart => h.isName_name _ (List.mem_map_of_mem hpart))
  rw [text, Template.pieces_append_of_notMem (h.opening_notMem _ List.mem_cons_self), hparts]

theorem filterMap_placeholder?_partsPieces (parts : List (Placeholder × Text)) :
    (partsPieces parts).filterMap Piece.placeholder? = parts.map Prod.fst := by
  induction parts with
  | nil => rfl
  | cons part parts ih =>
    have hrest := Piece.filterMap_placeholder?_map_literal_append part.2 (partsPieces parts)
    rw [partsPieces_cons]
    exact congrArg (part.1 :: ·) (hrest.trans ih)

theorem gapTexts_partsPieces (parts : List (Placeholder × Text)) :
    Piece.gapTexts (partsPieces parts) = ([], parts.map Prod.snd) := by
  induction parts with
  | nil => rfl
  | cons part parts ih =>
    rw [partsPieces_cons, Piece.gapTexts, Piece.gapTexts_map_literal_append, ih, List.append_nil]
    rfl

/-- Behind `offset` bytes, a placeholder is found behind the parts that are
printed before it. -/
theorem start_of_getElem?_locate {parts : List (Placeholder × Text)} {offset index : ℕ}
    {o : Occurrence} (h : (Template.locate offset (partsPieces parts))[index]? = some o) :
    o.start = offset + Text.size (partsText (parts.take index)) := by
  induction parts generalizing offset index with
  | nil => cases h
  | cons part parts ih =>
    obtain ⟨p, gap⟩ := part
    rw [partsPieces_cons, Template.locate, Template.locate_map_literal_append] at h
    cases index with
    | zero =>
      obtain rfl := Option.some.inj h
      rfl
    | succ index =>
      rw [List.getElem?_cons_succ] at h
      rw [ih h, List.take_succ_cons, partsText_cons, Text.size_append, Text.size_append]
      omega

/-! ## Reading back -/

theorem placeholders_text {l : Layout} (h : l.IsPrintable) :
    Template.placeholders l.text = l.placeholders := by
  rw [Template.placeholders, pieces_text h, Piece.filterMap_placeholder?_map_literal_append,
    filterMap_placeholder?_partsPieces, placeholders]

theorem gapsFrom?_text {l : Layout} (h : l.IsPrintable) :
    Template.gapsFrom? l.text 0 (Template.occurrences l.text) = some l.gaps := by
  rw [Template.gapsFrom?_occurrences, pieces_text h, Piece.gapTexts_map_literal_append,
    gapTexts_partsPieces, List.append_nil, gaps]

theorem start_of_getElem?_occurrences {l : Layout} (h : l.IsPrintable) {index : ℕ}
    {o : Occurrence} (ho : (Template.occurrences l.text)[index]? = some o) :
    o.start = l.offset index := by
  rw [Template.occurrences, pieces_text h, Template.locate_map_literal_append] at ho
  rw [start_of_getElem?_locate ho, offset, text, Text.size_append, Nat.zero_add]

end Layout

namespace Template

/-- A text between two braces, as a layout. -/
theorem text_single (name : Text) :
    Layout.text ⟨[], [(⟨.one, name, .one⟩, [])]⟩ = '\x7b' :: name ++ ['\x7d'] := by
  simp [Layout.text, Layout.partsText, Placeholder.text, Braces.text, Braces.count]

/-- **Reading back.** A layout whose texts have no braces and whose placeholders
have names is printed as a template with just these placeholders, each at the
offset at which it was printed, and just these texts around them. A text is a
name exactly when it makes a template, put between two braces, that is a single
placeholder with this name from the beginning to the end. -/
theorem layout_is_read_back :
    (∀ l : Layout, l.IsPrintable →
      (occurrences l.text).map Occurrence.placeholder = l.placeholders ∧
      (∀ index o, (occurrences l.text)[index]? = some o → o.start = l.offset index) ∧
      gapsFrom? l.text 0 (occurrences l.text) = some l.gaps) ∧
    ∀ name : Text, isName name = true ↔
      let template : Text := '\x7b' :: name ++ ['\x7d']
      ∃ o, occurrences template = [o] ∧ o.start = 0 ∧ o.stop = template.size ∧
        o.placeholder.name = name := by
  refine ⟨fun l hl => ⟨?_, fun index o ho => Layout.start_of_getElem?_occurrences hl ho,
    Layout.gapsFrom?_text hl⟩, fun name => ⟨fun hname => ?_, ?_⟩⟩
  · rw [map_placeholder_occurrences, Layout.placeholders_text hl]
  · let l : Layout := ⟨[], [(⟨.one, name, .one⟩, [])]⟩
    have hl : l.IsPrintable := ⟨by simp [l, Layout.gaps], by simp [l, Layout.gaps],
      by simpa [l, Layout.placeholders] using hname⟩
    have hplaceholders := Layout.placeholders_text hl
    rw [← map_placeholder_occurrences, text_single] at hplaceholders
    obtain ⟨o, ho, hp⟩ := List.map_eq_singleton_iff.mp hplaceholders
    have hfirst : (occurrences l.text)[0]? = some o := by
      rw [text_single, ho]
      rfl
    have hstart : o.start = 0 := Layout.start_of_getElem?_occurrences hl hfirst
    refine ⟨o, ho, hstart, ?_, by rw [hp]⟩
    rw [Occurrence.stop, hstart, hp, ← text_single]
    simp [Layout.text, Layout.partsText]
  · rintro ⟨o, ho, -, -, rfl⟩
    exact (isScan_occurrences _).isName_name o (ho ▸ List.mem_singleton_self o)

/-- Placeholders side by side, with more closing braces than opening ones and the
other way round, behind a character of two bytes. -/
theorem layout_is_read_back_side_by_side :
    let l : Layout :=
      ⟨['é'], [(⟨.one, ['a'], .two⟩, []), (⟨.two, ['b', '.', '1'], .one⟩, ['ß']),
        (⟨.one, ['_'], .one⟩, [])]⟩
    l.IsPrintable ∧ l.text = "é\x7ba\x7d\x7d\x7b\x7bb.1\x7dß\x7b_\x7d".toList ∧
      (occurrences l.text).map Occurrence.placeholder =
        [⟨.one, ['a'], .two⟩, ⟨.two, ['b', '.', '1'], .one⟩, ⟨.one, ['_'], .one⟩] ∧
      (∀ index o, (occurrences l.text)[index]? = some o → o.start = l.offset index) ∧
      [0, 1, 2].map l.offset = [2, 6, 14] ∧
      gapsFrom? l.text 0 (occurrences l.text) = some [['é'], [], ['ß'], []] := by
  intro l
  have hl : l.IsPrintable := by decide
  obtain ⟨hplaceholders, hstarts, hgaps⟩ := layout_is_read_back.1 l hl
  exact ⟨hl, by decide, hplaceholders, hstarts, by decide, hgaps⟩

end Template

end FormLetter
