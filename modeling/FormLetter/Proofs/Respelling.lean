import FormLetter.Proofs.BraceStyles
import FormLetter.Proofs.Substitution
import Mathlib.Data.List.Forall2

/-!
# Spelling does not matter

The placeholders of a template may be spelled in other letter case and with
more braces. More braces could join with braces that stand next to a
placeholder; they do not, because reading takes two braces wherever two stand,
so that a lone opening brace is not preceded by another and a lone closing
brace is not followed by one. Fewer braces would not do: the outer braces of
`{{{a}}}` would take their place.

Specification: `Placeholder.Respells` says which spellings are admitted.

Results:

* `pieces_flatMap_of_respells`: a template with other spellings is read as it
  is written.
* `resolve_of_respells`: resolving tells no difference.
* `respelling_invariance`: neither does analysing, and one spelling for all
  placeholders is consistent.
-/

namespace FormLetter

/-! ## Specification -/

/-- The second placeholder has the name of the first, letter case of ASCII
aside, and no fewer braces on either side. -/
structure Placeholder.Respells (p q : Placeholder) : Prop where
  key_eq : q.key = p.key
  opening_le : p.opening.count ≤ q.opening.count
  closing_le : p.closing.count ≤ q.closing.count

/-- The placeholder with two braces on each side and the name in lower case. -/
def Placeholder.canonical (p : Placeholder) : Placeholder := ⟨.two, p.key, .two⟩

theorem Braces.count_le_two (b : Braces) : b.count ≤ 2 := by cases b <;> decide

theorem Braces.eq_two_of_count_le {b : Braces} (h : Braces.two.count ≤ b.count) : b = .two := by
  cases b with
  | one => exact absurd h (by decide)
  | two => rfl

theorem Placeholder.respells_canonical (p : Placeholder) : p.Respells p.canonical where
  key_eq := Text.asciiLower_asciiLower p.name
  opening_le := p.opening.count_le_two
  closing_le := p.closing.count_le_two

theorem Placeholder.Respells.isName_name {p q : Placeholder} (h : p.Respells q)
    (hname : isName p.name = true) : isName q.name = true := by
  have hkey := h.key_eq
  unfold Placeholder.key at hkey
  rw [← isName_asciiLower, hkey, isName_asciiLower, hname]

/-! ## Where reading fails -/

theorem Braces.read?_eq_none_iff {brace : Char} {t : Text} :
    read? brace t = none ↔ t.head? ≠ some brace := by
  match t with
  | [] => simp [read?]
  | [c] => simp [read?]
  | c :: d :: t =>
    rw [read?]
    split_ifs with hc hd
    · simp [hc]
    · simp [hc]
    · simp [hc]

/-- Two texts begin with the same name, and the same character follows it. -/
def SameStart (s s' : Text) : Prop :=
  s'.takeWhile isNameChar = s.takeWhile isNameChar ∧
    (s'.dropWhile isNameChar).head? = (s.dropWhile isNameChar).head?

namespace Placeholder

theorem read?_cons_of_ne {c : Char} (h : c ≠ '\x7b') (t : Text) : read? (c :: t) = none := by
  have hbraces : Braces.read? '\x7b' (c :: t) = none :=
    Braces.read?_eq_none_iff.mpr (by simpa using h)
  rw [read?, hbraces]

/-- Whether a placeholder is read depends on the name behind the opening braces
and on the character that follows the name. -/
theorem read?_eq_none_iff {t inner : Text} {opening : Braces}
    (h : Braces.read? '\x7b' t = some (opening, inner)) :
    read? t = none ↔ inner.takeWhile isNameChar = [] ∨
      (inner.dropWhile isNameChar).head? ≠ some '\x7d' := by
  rw [← Braces.read?_eq_none_iff, read?, h]
  simp only
  split_ifs with hname
  · simp [hname]
  · cases hclose : Braces.read? '\x7d' (inner.dropWhile isNameChar) <;> simp [hname]

theorem read?_eq_none_of_sameStart {t t' inner inner' : Text} {opening : Braces}
    (h : Braces.read? '\x7b' t = some (opening, inner))
    (h' : Braces.read? '\x7b' t' = some (opening, inner')) (hsame : SameStart inner inner')
    (hnone : read? t = none) : read? t' = none := by
  rw [read?_eq_none_iff h, ← hsame.1, ← hsame.2] at hnone
  exact (read?_eq_none_iff h').mpr hnone

theorem exists_text_eq_cons (p : Placeholder) : ∃ rest, p.text = '\x7b' :: rest := by
  obtain ⟨opening, name, closing⟩ := p
  cases opening <;> exact ⟨_, rfl⟩

/-- No placeholder is read from three opening braces. -/
theorem read?_cons_text_of_two {p : Placeholder} (h : p.opening = .two) (rest : Text) :
    read? ('\x7b' :: (p.text ++ rest)) = none := by
  obtain ⟨opening, name, closing⟩ := p
  obtain rfl : opening = .two := h
  have hbraces : Braces.read? '\x7b' ('\x7b' ::
      ((⟨.two, name, closing⟩ : Placeholder).text ++ rest)) =
        some (.two, '\x7b' :: (name ++ (closing.text '\x7d' ++ rest))) := by
    simp [text, Braces.text, Braces.count, List.replicate, Braces.read?]
  rw [read?_eq_none_iff hbraces]
  exact Or.inl (List.takeWhile_cons_of_neg (by decide))

/-- A placeholder with one opening brace is read together with a brace in front
of it. -/
theorem read?_cons_text_of_one {p : Placeholder} (h : p.opening = .one)
    (hname : isName p.name = true) (rest : Text) :
    read? ('\x7b' :: (p.text ++ rest)) ≠ none := by
  obtain ⟨opening, name, closing⟩ := p
  obtain rfl : opening = .one := h
  have hplaceholder := isPlaceholder_text (p := ⟨.two, name, closing⟩) hname
  obtain ⟨_, _, hread⟩ := exists_read?_of_isPlaceholder hplaceholder rest
  exact ne_of_eq_of_ne hread (Option.some_ne_none _)

end Placeholder

/-! ## Pieces -/

namespace Piece

/-- Placeholders with names are spelled differently, and characters stay. -/
inductive Respells : Piece → Piece → Prop
  | literal (c : Char) : Respells (.literal c) (.literal c)
  | placeholder {p q : Placeholder} (hname : isName p.name = true) (h : p.Respells q) :
    Respells (.placeholder p) (.placeholder q)

variable {ps ps' : List Piece}

theorem head?_flatMap_of_respells (h : List.Forall₂ Respells ps ps') :
    (ps'.flatMap text).head? = (ps.flatMap text).head? := by
  cases h with
  | nil => rfl
  | cons hpiece hrest =>
    cases hpiece with
    | literal c => rfl
    | @placeholder p q _ _ =>
      obtain ⟨_, hp⟩ := p.exists_text_eq_cons
      obtain ⟨_, hq⟩ := q.exists_text_eq_cons
      simp [text, hp, hq]

theorem sameStart_of_respells (h : List.Forall₂ Respells ps ps') :
    SameStart (ps.flatMap text) (ps'.flatMap text) := by
  induction h with
  | nil => exact ⟨rfl, rfl⟩
  | cons hpiece hrest ih =>
    cases hpiece with
    | literal c =>
      simp only [SameStart, List.flatMap_cons, text, List.singleton_append, List.takeWhile_cons,
        List.dropWhile_cons]
      split_ifs
      · exact ⟨congrArg (c :: ·) ih.1, ih.2⟩
      · exact ⟨rfl, rfl⟩
    | @placeholder p q _ _ =>
      obtain ⟨_, hp⟩ := p.exists_text_eq_cons
      obtain ⟨_, hq⟩ := q.exists_text_eq_cons
      simp [SameStart, text, hp, hq, Placeholder.isNameChar_openingBrace]

/-- Where no placeholder is read, none is read when those behind are spelled
differently. -/
theorem read?_cons_of_respells {c : Char} (h : List.Forall₂ Respells ps ps')
    (hread : Placeholder.read? (c :: ps.flatMap text) = none) :
    Placeholder.read? (c :: ps'.flatMap text) = none := by
  by_cases hc : c = '\x7b'
  · subst hc
    cases h with
    | nil => exact hread
    | cons hpiece hrest =>
      cases hpiece with
      | literal d =>
        by_cases hd : d = '\x7b'
        · -- the second brace belongs to the first
          have htwo (rest : Text) : Braces.read? '\x7b' ('\x7b' :: d :: rest) =
              some (.two, rest) := by simp [Braces.read?, hd]
          exact Placeholder.read?_eq_none_of_sameStart (htwo _) (htwo _)
            (sameStart_of_respells hrest) hread
        · have hone (rest : Text) : Braces.read? '\x7b' ('\x7b' :: d :: rest) =
              some (.one, d :: rest) := by simp [Braces.read?, hd]
          exact Placeholder.read?_eq_none_of_sameStart (hone _) (hone _)
            (sameStart_of_respells (.cons (.literal d) hrest)) hread
      | @placeholder p q hname hpq =>
        cases hopening : p.opening with
        | one => exact absurd hread (Placeholder.read?_cons_text_of_one hopening hname _)
        | two =>
          have hle := hpq.opening_le
          rw [hopening] at hle
          exact Placeholder.read?_cons_text_of_two (Braces.eq_two_of_count_le hle) _
  · exact Placeholder.read?_cons_of_ne hc _

/-- Other spellings of the placeholders among some pieces make other pieces
with the same texts around the placeholders. -/
theorem exists_respelled {spellings : List Placeholder}
    (hnames : ∀ p ∈ ps.filterMap placeholder?, isName p.name = true)
    (h : List.Forall₂ Placeholder.Respells (ps.filterMap placeholder?) spellings) :
    ∃ ps', List.Forall₂ Respells ps ps' ∧ ps'.filterMap placeholder? = spellings ∧
      gapTexts ps' = gapTexts ps := by
  induction ps generalizing spellings with
  | nil =>
    cases h
    exact ⟨[], .nil, rfl, rfl⟩
  | cons piece ps ih =>
    cases piece with
    | literal c =>
      obtain ⟨ps', hps', hspellings, hgaps⟩ := ih hnames h
      exact ⟨.literal c :: ps', .cons (.literal c) hps', hspellings, by
        rw [gapTexts, gapTexts, hgaps]⟩
    | placeholder p =>
      obtain ⟨q, qs, hpq, hqs, rfl⟩ := List.forall₂_cons_left_iff.mp h
      obtain ⟨hname, hnames⟩ := List.forall_mem_cons.mp hnames
      obtain ⟨ps', hps', rfl, hgaps⟩ := ih hnames hqs
      exact ⟨.placeholder q :: ps', .cons (.placeholder hname hpq) hps', rfl, by
        rw [gapTexts, gapTexts, hgaps]⟩

end Piece

namespace Template

/-- A template whose placeholders are spelled differently is read as it is
written. -/
theorem pieces_flatMap_of_respells {t : Text} {ps : List Piece}
    (h : List.Forall₂ Piece.Respells (pieces t) ps) : pieces (ps.flatMap Piece.text) = ps := by
  fun_induction pieces t generalizing ps with
  | case1 =>
    cases h
    exact pieces_nil
  | case2 c following p rest hread ih =>
    obtain ⟨_, ps, hpiece, hrest, rfl⟩ := List.forall₂_cons_left_iff.mp h
    cases hpiece with
    | @placeholder _ q hname hpq =>
      have hclosing (hone : q.closing = .one) : (ps.flatMap Piece.text).head? ≠ some '\x7d' := by
        rw [Piece.head?_flatMap_of_respells hrest, flatMap_text_pieces]
        refine Placeholder.head?_ne_of_read? hread ?_
        have hle := hpq.closing_le
        rw [hone] at hle
        cases hp : p.closing with
        | one => rfl
        | two => rw [hp] at hle; exact absurd hle (by decide)
      have hread' := Placeholder.read?_text_append (hpq.isName_name hname) hclosing
      rw [List.flatMap_cons, Piece.text, pieces_of_read? hread', ih hrest]
  | case3 c following hread ih =>
    obtain ⟨_, ps, hpiece, hrest, rfl⟩ := List.forall₂_cons_left_iff.mp h
    cases hpiece with
    | literal =>
      have hread' : Placeholder.read? (c :: ps.flatMap Piece.text) = none := by
        refine Piece.read?_cons_of_respells hrest ?_
        rwa [flatMap_text_pieces]
      rw [List.flatMap_cons, Piece.text, List.singleton_append,
        pieces_of_read?_eq_none hread', ih hrest]

/-- The template with other spellings of its placeholders and the same texts
around them. -/
theorem placeholders_respelled {template : Text} {gaps : List Text}
    {spellings : List Placeholder} (hgaps : gapsFrom? template 0 (occurrences template) = some gaps)
    (h : List.Forall₂ Placeholder.Respells (placeholders template) spellings) :
    placeholders (weave gaps (spellings.map Placeholder.text)) = spellings ∧
      gapsFrom? (weave gaps (spellings.map Placeholder.text)) 0
        (occurrences (weave gaps (spellings.map Placeholder.text))) = some gaps := by
  rw [gapsFrom?_occurrences, Option.some.injEq] at hgaps
  obtain ⟨ps, hps, rfl, htexts⟩ :=
    Piece.exists_respelled (fun p hp => isName_of_mem_placeholders hp) h
  have hwritten : weave gaps ((ps.filterMap Piece.placeholder?).map Placeholder.text) =
      ps.flatMap Piece.text := by
    rw [← hgaps, ← htexts, Piece.weave_gapTexts, Piece.fillWith_text]
  rw [hwritten]
  refine ⟨?_, ?_⟩
  · rw [placeholders, pieces_flatMap_of_respells hps]
  · rw [gapsFrom?_occurrences, pieces_flatMap_of_respells hps, htexts, hgaps]

end Template

/-! ## Nothing changes -/

/-- What does not depend on the spelling is the same for all placeholders. -/
theorem map_eq_of_respells {β : Type} {f : Placeholder → β}
    (hf : ∀ {p q}, isName p.name = true → p.Respells q → f q = f p)
    {ps spellings : List Placeholder} (hnames : ∀ p ∈ ps, isName p.name = true)
    (h : List.Forall₂ Placeholder.Respells ps spellings) : spellings.map f = ps.map f := by
  induction h with
  | nil => rfl
  | cons hpq _ ih =>
    obtain ⟨hname, hnames⟩ := List.forall_mem_cons.mp hnames
    rw [List.map_cons, List.map_cons, hf hname hpq, ih hnames]

namespace Record

variable (record : Record)

theorem get?_of_respells {p q : Placeholder} (hname : isName p.name = true) (h : p.Respells q) :
    record.get? q.name = record.get? p.name := by
  rw [get?_name record (h.isName_name hname), get?_name record hname, h.key_eq]

theorem get_of_respells {p q : Placeholder} (hname : isName p.name = true) (h : p.Respells q) :
    record.get q.name = record.get p.name := by
  rw [get, record.get?_of_respells hname h, get]

theorem lacking?_of_respells {p q : Placeholder} (hname : isName p.name = true)
    (h : p.Respells q) : record.lacking? q = record.lacking? p := by
  rw [lacking?, record.get?_of_respells hname h, h.key_eq, lacking?]

/-- Templates with the same texts around placeholders that differ in their
spelling are resolved alike. -/
theorem resolve_of_respells {template respelled : Text} {gaps : List Text}
    (hgaps : Template.gapsFrom? template 0 (Template.occurrences template) = some gaps)
    (hgaps' : Template.gapsFrom? respelled 0 (Template.occurrences respelled) = some gaps)
    (h : List.Forall₂ Placeholder.Respells (Template.placeholders template)
      (Template.placeholders respelled)) :
    record.resolve respelled = record.resolve template := by
  have hnames : ∀ p ∈ Template.placeholders template, isName p.name = true :=
    fun p hp => Template.isName_of_mem_placeholders hp
  rw [Template.gapsFrom?_occurrences, ← hgaps, Template.gapsFrom?_occurrences,
    Option.some.injEq] at hgaps'
  have hmessage : (record.resolve respelled).message = (record.resolve template).message := by
    rw [message_resolve, message_resolve, hgaps',
      map_eq_of_respells record.get_of_respells hnames h]
  have hlacking := map_eq_of_respells record.lacking?_of_respells hnames h
  have hunknown : (record.resolve respelled).unknown = (record.resolve template).unknown := by
    have hfilter := congrArg (fun names => Names.ofList (names.filterMap id)) hlacking
    simp only [List.filterMap_map, Function.id_comp] at hfilter
    exact hfilter
  rw [Resolution.mk.injEq]
  exact ⟨hmessage, hunknown⟩

end Record

namespace Template

theorem keys_of_respells {template respelled : Text}
    (h : List.Forall₂ Placeholder.Respells (placeholders template) (placeholders respelled)) :
    keys respelled = keys template :=
  map_eq_of_respells (fun _ h => h.key_eq) (fun _ hp => isName_of_mem_placeholders hp) h

/-- The names of an analysis with their counts are known from the keys. -/
theorem map_name_count_usages_analyze (template : Text) :
    (analyze template).usages.map (fun u => (u.name, u.count)) =
      (rankedNames template).map fun name => (name, (keys template).count name) := by
  rw [usages_analyze, List.map_map]
  refine List.map_congr_left fun name _ => ?_
  rw [Function.comp_apply, Usage.ofGroup, length_groupOf]
  rfl

/-- A template that has only placeholders with the same braces is
consistent. -/
theorem inconsistent_eq_nil {template : Text} {braces : Braces × Braces}
    (h : ∀ p ∈ placeholders template, (p.opening, p.closing) = braces) :
    (analyze template).inconsistent = [] := by
  refine List.eq_nil_iff_forall_not_mem.mpr fun name hname => ?_
  obtain ⟨p, hp, q, hq, -, -, hne⟩ := mem_inconsistent_iff.mp hname
  exact hne ((h p hp).trans (h q hq).symm)

/-- **Respelling.** The texts around the placeholders of a template make a
template with every list of other spellings. It has just these placeholders
with the same texts around them, it is resolved to the same message with the
same names reported, and its analysis has the same names with the same counts
in the same order. With two braces and lower case throughout, no name is
reported as inconsistent. -/
theorem respelling_invariance (template : Text) :
    ∃ gaps, gapsFrom? template 0 (occurrences template) = some gaps ∧
      weave gaps ((placeholders template).map Placeholder.text) = template ∧
      (∀ spellings, List.Forall₂ Placeholder.Respells (placeholders template) spellings →
        let respelled := weave gaps (spellings.map Placeholder.text)
        placeholders respelled = spellings ∧
        gapsFrom? respelled 0 (occurrences respelled) = some gaps ∧
        (∀ record : Record, record.resolve respelled = record.resolve template) ∧
        (analyze respelled).usages.map (fun u => (u.name, u.count)) =
          (analyze template).usages.map fun u => (u.name, u.count)) ∧
      let canonical := weave gaps (((placeholders template).map Placeholder.canonical).map
        Placeholder.text)
      (∀ record : Record, record.resolve canonical = record.resolve template) ∧
      (analyze canonical).inconsistent = [] := by
  obtain ⟨gaps, hgaps⟩ : ∃ gaps, gapsFrom? template 0 (occurrences template) = some gaps :=
    ⟨_, gapsFrom?_occurrences template⟩
  refine ⟨gaps, hgaps, ?_, ?_, ?_⟩
  · have htexts := hgaps
    rw [gapsFrom?_occurrences, Option.some.injEq] at htexts
    rw [← htexts, placeholders, Piece.weave_gapTexts, Piece.fillWith_text, flatMap_text_pieces]
  · intro spellings h respelled
    obtain ⟨hplaceholders, hgaps'⟩ := placeholders_respelled hgaps h
    have h' : List.Forall₂ Placeholder.Respells (placeholders template)
        (placeholders respelled) := hplaceholders.symm ▸ h
    refine ⟨hplaceholders, hgaps', fun record => record.resolve_of_respells hgaps hgaps' h', ?_⟩
    rw [map_name_count_usages_analyze, map_name_count_usages_analyze, rankedNames, rankedNames,
      keys_of_respells h']
  · intro canonical
    have h : List.Forall₂ Placeholder.Respells (placeholders template)
        ((placeholders template).map Placeholder.canonical) := by
      rw [List.forall₂_map_right_iff, List.forall₂_same]
      exact fun p _ => p.respells_canonical
    obtain ⟨hplaceholders, hgaps'⟩ := placeholders_respelled hgaps h
    have h' : List.Forall₂ Placeholder.Respells (placeholders template)
        (placeholders canonical) := hplaceholders.symm ▸ h
    have hbraces : ∀ p ∈ placeholders canonical, (p.opening, p.closing) = (.two, .two) := by
      rw [hplaceholders]
      intro p hp
      obtain ⟨q, -, rfl⟩ := List.mem_map.mp hp
      rfl
    exact ⟨fun record => record.resolve_of_respells hgaps hgaps' h', inconsistent_eq_nil hbraces⟩

/-- A brace beside a placeholder does not join with it, and one that is added
to the placeholder behind finds no other. -/
theorem respelling_beside_braces :
    let template : Text :=
      ['\x7b', '\x7b', '\x7b', 'a', '\x7d', '\x7d', '\x7d', '\x7b', 'B', '\x7d']
    let respelled : Text :=
      ['\x7b', '\x7b', '\x7b', 'A', '\x7d', '\x7d', '\x7d', '\x7b', '\x7b', 'b', '\x7d']
    let spellings : List Placeholder := [⟨.two, ['A'], .two⟩, ⟨.two, ['b'], .one⟩]
    List.Forall₂ Placeholder.Respells (placeholders template) spellings ∧
      placeholders respelled = spellings ∧
      ∀ record : Record, record.resolve respelled = record.resolve template := by
  intro template respelled spellings
  have hplaceholders : placeholders template = [⟨.two, ['a'], .two⟩, ⟨.one, ['B'], .one⟩] := by
    decide +kernel
  have hgaps : gapsFrom? template 0 (occurrences template) = some [['\x7b'], ['\x7d'], []] := by
    decide +kernel
  have hrespells : List.Forall₂ Placeholder.Respells (placeholders template) spellings := by
    rw [hplaceholders]
    exact .cons ⟨by decide, by decide, by decide⟩ (.cons ⟨by decide, by decide, by decide⟩ .nil)
  obtain ⟨gaps, hgaps', -, hspellings, -⟩ := respelling_invariance template
  obtain rfl : gaps = [['\x7b'], ['\x7d'], []] := Option.some.inj (hgaps'.symm.trans hgaps)
  have hwritten : weave [['\x7b'], ['\x7d'], []] (spellings.map Placeholder.text) = respelled := by
    decide
  obtain ⟨hread, -, hresolve, -⟩ := hspellings spellings hrespells
  rw [hwritten] at hread hresolve
  exact ⟨hrespells, hread, hresolve⟩

end Template

end FormLetter
