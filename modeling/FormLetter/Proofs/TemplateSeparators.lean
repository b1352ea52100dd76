import FormLetter.Proofs.Missing

/-!
# Templates fall apart at separators

A character that is neither a brace nor part of names stands in no placeholder.
What is read before it does not depend on what follows, and reading starts
afresh behind it: a placeholder that has been begun and not ended in front of
the separator stays text, and takes nothing from the other side.

Specification: `IsSeparator` says which characters separate,
`Occurrence.shift` moves an occurrence, and `Analysis.countOf` is what an
analysis counts for a name.

Results:

* `read?_append_cons`: a placeholder is read in front of a separator just as if
  the text ended there.
* `pieces_append_cons`: the pieces of a template with a separator are those of
  the two sides.
* `occurrences_append_cons`: so are its occurrences, those behind the separator
  at a distance.
* `countOf_analyze`: an analysis counts the placeholders with a key.
* `split_at_separator`: resolving and analysing, too, go side by side.
-/

namespace FormLetter

/-! ## Specification -/

/-- The character is no brace and does not stand in names. -/
structure IsSeparator (c : Char) : Prop where
  ne_opening : c ≠ '\x7b'
  ne_closing : c ≠ '\x7d'
  isNameChar_eq : isNameChar c = false

/-- The same placeholder some bytes further on. -/
def Occurrence.shift (bytes : ℕ) (o : Occurrence) : Occurrence := ⟨o.placeholder, bytes + o.start⟩

@[simp] theorem Occurrence.stop_shift (bytes : ℕ) (o : Occurrence) :
    (o.shift bytes).stop = bytes + o.stop :=
  Nat.add_assoc _ _ _

/-- How many placeholders an analysis counts for a name. A name without a usage
has none. -/
def Analysis.countOf (analysis : Analysis) (name : Text) : ℕ :=
  ((analysis.usages.find? fun u => u.name = name).map Usage.count).getD 0

/-! ## Reading in front of a separator -/

theorem takeWhile_dropWhile_append_cons {p : Char → Bool} {c : Char} (hc : p c = false)
    (s t : Text) :
    (s ++ c :: t).takeWhile p = s.takeWhile p ∧
      (s ++ c :: t).dropWhile p = s.dropWhile p ++ c :: t := by
  induction s with
  | nil => simp [hc]
  | cons d s ih =>
    cases hd : p d with
    | false => simp [hd]
    | true => simpa [hd] using ih

theorem Braces.read?_append_cons {brace c : Char} (hc : c ≠ brace) (s t : Text) :
    read? brace (s ++ c :: t) = (read? brace s).map fun r => (r.1, r.2 ++ c :: t) := by
  match s with
  | [] => cases t <;> simp [read?, hc]
  | [d] =>
    -- the separator takes the place of a second brace
    simp only [List.cons_append, List.nil_append, read?, if_neg hc]
    split_ifs <;> rfl
  | d :: e :: s =>
    simp only [List.cons_append, read?]
    split_ifs <;> rfl

theorem Placeholder.read?_append_cons {c : Char} (hc : IsSeparator c) (s t : Text) :
    read? (s ++ c :: t) = (read? s).map fun r => (r.1, r.2 ++ c :: t) := by
  unfold read?
  rw [Braces.read?_append_cons hc.ne_opening]
  cases Braces.read? '\x7b' s with
  | none => rfl
  | some opened =>
    obtain ⟨opening, inner⟩ := opened
    obtain ⟨htake, hdrop⟩ := takeWhile_dropWhile_append_cons hc.isNameChar_eq inner t
    simp only [Option.map_some, htake, hdrop, Braces.read?_append_cons hc.ne_closing]
    split_ifs
    · rfl
    · cases Braces.read? '\x7d' (inner.dropWhile isNameChar) <;> rfl

namespace Template

/-! ## Pieces and occurrences -/

theorem pieces_append_cons {c : Char} (hc : IsSeparator c) (s t : Text) :
    pieces (s ++ c :: t) = pieces s ++ .literal c :: pieces t := by
  fun_induction pieces s with
  | case1 =>
    have hread : Placeholder.read? (c :: t) = none := Placeholder.read?_append_cons hc [] t
    exact pieces_of_read?_eq_none hread
  | case2 d following p rest hread ih =>
    have hread' := Placeholder.read?_append_cons hc (d :: following) t
    rw [hread, Option.map_some] at hread'
    rw [pieces_of_read? hread', ih, List.cons_append]
  | case3 d following hread ih =>
    have hread' := Placeholder.read?_append_cons hc (d :: following) t
    rw [hread, Option.map_none, List.cons_append] at hread'
    rw [List.cons_append, pieces_of_read?_eq_none hread', ih, List.cons_append]

theorem locate_append (offset : ℕ) (ps qs : List Piece) :
    locate offset (ps ++ qs) =
      locate offset ps ++ locate (offset + Text.size (ps.flatMap Piece.text)) qs := by
  induction ps generalizing offset with
  | nil => rfl
  | cons piece ps ih =>
    cases piece with
    | literal c =>
      rw [List.cons_append, locate, ih, locate, List.flatMap_cons, Text.size_append,
        ← Nat.add_assoc]
      rfl
    | placeholder p =>
      rw [List.cons_append, locate, ih, locate, List.flatMap_cons, Text.size_append,
        ← Nat.add_assoc]
      rfl

/-- Where placeholders stand is counted from the first piece. -/
theorem locate_add (bytes offset : ℕ) (ps : List Piece) :
    locate (bytes + offset) ps = (locate offset ps).map (Occurrence.shift bytes) := by
  induction ps generalizing offset with
  | nil => rfl
  | cons piece ps ih =>
    cases piece with
    | literal c => rw [locate, locate, Nat.add_assoc, ih]
    | placeholder p =>
      rw [locate, locate, Nat.add_assoc, ih]
      rfl

theorem occurrences_append_cons {c : Char} (hc : IsSeparator c) (s t : Text) :
    occurrences (s ++ c :: t) =
      occurrences s ++ (occurrences t).map (Occurrence.shift (Text.size (s ++ [c]))) := by
  have hsize : (s ++ [c]).size = 0 + s.size + c.utf8Size := by simp
  unfold occurrences
  rw [pieces_append_cons hc, locate_append, flatMap_text_pieces, locate, ← locate_add, hsize,
    Nat.add_zero]

theorem placeholders_append_cons {c : Char} (hc : IsSeparator c) (s t : Text) :
    placeholders (s ++ c :: t) = placeholders s ++ placeholders t := by
  unfold placeholders
  rw [pieces_append_cons hc, List.filterMap_append]
  rfl

theorem keys_append_cons {c : Char} (hc : IsSeparator c) (s t : Text) :
    keys (s ++ c :: t) = keys s ++ keys t := by
  unfold keys
  rw [placeholders_append_cons hc, List.map_append]

/-! ## Counts -/

theorem count_of_mem_usages {template : Text} {u : Usage} (h : u ∈ (analyze template).usages) :
    u.count = (keys template).count u.name := by
  rw [usages_analyze] at h
  obtain ⟨name, -, rfl⟩ := List.mem_map.mp h
  exact length_groupOf _ _

/-- An analysis counts the placeholders with a key. -/
theorem countOf_analyze (template name : Text) :
    (analyze template).countOf name = (keys template).count name := by
  rw [Analysis.countOf]
  cases hfind : (analyze template).usages.find? fun u => u.name = name with
  | none =>
    have hname : name ∉ keys template := by
      intro hmem
      obtain ⟨u, hu, rfl⟩ := List.mem_map.mp (mem_map_name_usages_analyze.mpr hmem)
      exact absurd (List.find?_eq_none.mp hfind u hu) (by simp)
    rw [List.count_eq_zero_of_not_mem hname]
    rfl
  | some u =>
    obtain rfl : u.name = name := by simpa using List.find?_some hfind
    exact count_of_mem_usages (List.mem_of_find?_eq_some hfind)

/-! ## Both sides of a separator -/

/-- **Separators.** A separator cuts a template in two. The occurrences are
those of the first side and those of the second, the latter at the distance of
the first side and the separator. The message is that of the first side, the
separator and that of the second side; the names reported are those of either
side, in the order of their bytes; and placeholders are counted on both sides,
all together and for every name. -/
theorem split_at_separator {c : Char} (hc : IsSeparator c) (s t : Text) (record : Record) :
    occurrences (s ++ c :: t) =
      occurrences s ++ (occurrences t).map (Occurrence.shift (Text.size (s ++ [c]))) ∧
    (record.resolve (s ++ c :: t)).message =
      (record.resolve s).message ++ c :: (record.resolve t).message ∧
    ((record.resolve (s ++ c :: t)).unknown.map Text.utf8).Pairwise (· < ·) ∧
    (∀ name, name ∈ (record.resolve (s ++ c :: t)).unknown ↔
      name ∈ (record.resolve s).unknown ∨ name ∈ (record.resolve t).unknown) ∧
    (analyze (s ++ c :: t)).total = (analyze s).total + (analyze t).total ∧
    ∀ name, (analyze (s ++ c :: t)).countOf name =
      (analyze s).countOf name + (analyze t).countOf name := by
  refine ⟨occurrences_append_cons hc s t, ?_, Text.pairwise_utf8 (Names.pairwise_ofList _),
    fun name => ?_, ?_, fun name => ?_⟩
  · unfold Record.resolve
    rw [pieces_append_cons hc, List.flatMap_append, List.flatMap_cons]
    rfl
  · unfold Record.resolve
    rw [Names.mem_ofList, Names.mem_ofList, Names.mem_ofList, placeholders_append_cons hc,
      List.filterMap_append, List.mem_append]
  · unfold analyze
    rw [placeholders_append_cons hc, List.length_append]
  · rw [countOf_analyze, countOf_analyze, countOf_analyze, keys_append_cons hc, List.count_append]

/-- A placeholder that is cut by a separator is none, and the others keep their
places. -/
theorem split_at_separator_in_name :
    let s := "\x7b\x7ba\x7dx\x7b\x7bna".toList
    let t := "me\x7d\x7d \x7bB\x7d".toList
    let record := Record.ofPairs [("a".toList, "\x7bc\x7d".toList)]
    IsSeparator 'é' ∧
      occurrences (s ++ 'é' :: t) = [⟨⟨.two, ['a'], .one⟩, 0⟩, ⟨⟨.one, ['B'], .one⟩, 16⟩] ∧
      (record.resolve (s ++ 'é' :: t)).message =
        "\x7bc\x7dx\x7b\x7bnaéme\x7d\x7d ".toList ∧
      (∀ name, name ∈ (record.resolve (s ++ 'é' :: t)).unknown ↔
        name ∈ ([] : List Text) ∨ name ∈ ["b".toList]) ∧
      (analyze (s ++ 'é' :: t)).total = 1 + 1 ∧
      (analyze (s ++ 'é' :: t)).countOf "b".toList = 0 + 1 := by
  intro s t record
  have hc : IsSeparator 'é' := ⟨by decide, by decide, by decide⟩
  have hleft : record.resolve s = ⟨"\x7bc\x7dx\x7b\x7bna".toList, []⟩ := by decide +kernel
  have hright : record.resolve t = ⟨"me\x7d\x7d ".toList, ["b".toList]⟩ := by decide +kernel
  obtain ⟨hoccurrences, hmessage, -, hunknown, htotal, hcount⟩ := split_at_separator hc s t record
  rw [hleft, hright] at hmessage hunknown
  refine ⟨hc, hoccurrences.trans (by decide +kernel), hmessage, hunknown,
    htotal.trans (by decide +kernel), (hcount _).trans (by decide +kernel)⟩

end Template

end FormLetter
