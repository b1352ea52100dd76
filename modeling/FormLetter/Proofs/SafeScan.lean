import FormLetter.Proofs.ByteReader
import FormLetter.Template.Cursor
import Mathlib.Logic.Relation

/-!
# Scanning cuts only between characters

A scan is a byte offset that moves through the template. In every round the
first opening brace behind the offset is tried; a step goes on round by round
until a placeholder is found. Every cut can fail, but from the beginning of a
template none does: the offset always stands at a place of the template, and
what is cut there are whole characters.

Specification: `round?` and `next?` are a round and a step, `matchesFrom?` is a
whole scan, and `Record.resolveAtOffsets?` puts values into the gaps that a scan
leaves. None of them has a result if a cut fails. `Reaches` says where rounds
lead, and `ScansSafely` what is expected of all this.

Results:

* `isSound_of_round?`, `from?_pos_of_round?`: what a round does, and that it
  ends at a place again.
* `next?_eq`: a step finds what the cursor at its place finds.
* `matchesFrom?_eq`, `resolveAtOffsets?_eq`: scanning and resolving at offsets
  have the results of scanning and resolving.
* `scan_isSafe`: scanning is safe.
-/

namespace FormLetter

/-! ## Specification -/

namespace Template

/-- One round of the search for the next placeholder: an attempt at the first
opening brace, or no brace is left. -/
inductive Round
  | exhausted
  | tried (start : ℕ) (attempt : Attempt)
  deriving DecidableEq, Repr

/-- The offset at which a round leaves the scan: behind the placeholder it has
found, or else behind the brace it has tried in vain. -/
def Round.pos (template : Text) : Round → ℕ
  | exhausted => template.size
  | tried start attempt => (attempt.found?.map Match.stop).getD (start + 1)

/-- One round from an offset on. -/
def round? (template : Text) (pos : ℕ) : Option Round :=
  (template.from? pos).bind fun rest =>
    match rest.cut? '\x7b' with
    | none => some .exhausted
    | some (skipped, _) =>
      let start := pos + skipped.size
      (attempt? template start).map (.tried start)

/-- An offset that a scan comes to from another in any number of rounds. -/
def Reaches (template : Text) : ℕ → ℕ → Prop :=
  Relation.ReflTransGen fun pos pos' => ∃ r, round? template pos = some r ∧ r.pos template = pos'

/-- What a round has to do at an offset. If it finds no brace, there is none.
Otherwise it tries the first one, cuts well, and leaves the scan just behind the
brace or, if it has found a placeholder, behind that, at least three bytes
further on. -/
def Round.IsSound (template : Text) (pos : ℕ) (round : Round) : Prop :=
  match round with
  | exhausted => ∃ rest, template.from? pos = some rest ∧ '\x7b' ∉ rest
  | tried start attempt =>
    (∃ skipped, template.slice? pos start = some skipped ∧ '\x7b' ∉ skipped) ∧
      template.slice? start (start + 1) = some ['\x7b'] ∧ template.CutsWell attempt.cuts ∧
      match attempt.found? with
      | none => round.pos template = start + 1
      | some found =>
        found.start = start ∧ start + 3 ≤ found.stop ∧ round.pos template = found.stop

/-! ## Rounds -/

section Round

variable {template rest : Text} {pos start : ℕ} {attempt : Attempt}

theorem of_round?_exhausted (h : round? template pos = some .exhausted) :
    ∃ rest, template.from? pos = some rest ∧ '\x7b' ∉ rest := by
  obtain ⟨rest, hplace, h⟩ := Option.bind_eq_some_iff.mp h
  refine ⟨rest, hplace, Text.cut?_eq_none_iff.mp ?_⟩
  cases hcut : rest.cut? '\x7b' with
  | none => rfl
  | some sides => simp [hcut] at h

theorem of_round?_tried (h : round? template pos = some (.tried start attempt)) :
    ∃ skipped behind, template.from? pos = some (skipped ++ '\x7b' :: behind) ∧
      '\x7b' ∉ skipped ∧ start = pos + Text.size skipped ∧
      attempt? template start = some attempt := by
  obtain ⟨rest, hplace, h⟩ := Option.bind_eq_some_iff.mp h
  cases hcut : rest.cut? '\x7b' with
  | none => simp [hcut] at h
  | some sides =>
    obtain ⟨skipped, behind⟩ := sides
    obtain ⟨rfl, hskipped⟩ := Text.eq_of_cut? hcut
    simp only [hcut, Option.map_eq_some_iff, Round.tried.injEq] at h
    obtain ⟨_, hattempt, rfl, rfl⟩ := h
    exact ⟨skipped, behind, hplace, hskipped, rfl, hattempt⟩

theorem exists_round? (hplace : template.from? pos = some rest) :
    ∃ r, round? template pos = some r := by
  cases hcut : rest.cut? '\x7b' with
  | none => exact ⟨.exhausted, by simp [round?, hplace, hcut]⟩
  | some sides =>
    obtain ⟨skipped, behind⟩ := sides
    have hbrace := hplace
    rw [(Text.eq_of_cut? hcut).1] at hbrace
    obtain ⟨attempt, hattempt, -⟩ := attempt?_eq (Text.from?_add hbrace) rfl
    exact ⟨.tried (pos + skipped.size) attempt, by simp [round?, hplace, hcut, hattempt]⟩

theorem three_le_size_text {p : Placeholder} (h : isName p.name = true) : 3 ≤ p.text.size := by
  have hname := Text.size_pos_of_ne_nil (isName_iff.mp h).1
  have hopening := p.opening.count_eq
  have hclosing := p.closing.count_eq
  rw [p.size_text]
  omega

theorem of_attempt? {behind : Text} (hplace : template.from? start = some ('\x7b' :: behind))
    (hattempt : attempt? template start = some attempt) :
    template.CutsWell attempt.cuts ∧
      attempt.found? = (Placeholder.read? ('\x7b' :: behind)).map fun read =>
        Occurrence.toMatch ⟨read.1, start⟩ := by
  obtain ⟨_, hattempt', hcuts, hread⟩ := attempt?_eq hplace rfl
  obtain rfl := Option.some.inj (hattempt.symm.trans hattempt')
  exact ⟨hcuts, hread⟩

/-- A placeholder that is found reaches from the brace to a place at least three
bytes behind it. -/
theorem read?_of_found {found : Match} {behind : Text}
    (hplace : template.from? start = some ('\x7b' :: behind))
    (hattempt : attempt? template start = some attempt) (hfound : attempt.found? = some found) :
    ∃ p rest', Placeholder.read? ('\x7b' :: behind) = some (p, rest') ∧
      found = Occurrence.toMatch ⟨p, start⟩ ∧ start + 3 ≤ found.stop ∧
      template.from? found.stop = some rest' := by
  have hread := (of_attempt? hplace hattempt).2
  obtain ⟨⟨p, rest'⟩, hp, rfl⟩ := Option.map_eq_some_iff.mp (hread.symm.trans hfound)
  refine ⟨p, rest', hp, rfl, ?_, ?_⟩
  · exact Nat.add_le_add_left (three_le_size_text (Placeholder.isName_of_read? hp)) start
  · rw [Placeholder.eq_append_of_read? hp] at hplace
    exact Text.from?_add hplace

theorem read?_of_not_found {behind : Text} (hplace : template.from? start = some ('\x7b' :: behind))
    (hattempt : attempt? template start = some attempt) (hfound : attempt.found? = none) :
    Placeholder.read? ('\x7b' :: behind) = none := by
  have hread := (of_attempt? hplace hattempt).2
  exact Option.map_eq_none_iff.mp (hread.symm.trans hfound)

/-- A round leaves a scan at a place again. -/
theorem from?_pos_of_round? {r : Round} (h : round? template pos = some r) :
    ∃ rest, template.from? (r.pos template) = some rest := by
  cases r with
  | exhausted => exact ⟨[], Text.from?_size template⟩
  | tried start attempt =>
    obtain ⟨skipped, behind, hplace, -, rfl, hattempt⟩ := of_round?_tried h
    have hbrace := Text.from?_add hplace
    rw [Round.pos]
    cases hfound : attempt.found? with
    | none => exact ⟨behind, Text.from?_add (s := ['\x7b']) hbrace⟩
    | some found =>
      obtain ⟨p, rest', -, -, -, hstop⟩ := read?_of_found hbrace hattempt hfound
      exact ⟨rest', hstop⟩

theorem isSound_of_round? {r : Round} (h : round? template pos = some r) :
    r.IsSound template pos := by
  cases r with
  | exhausted => exact of_round?_exhausted h
  | tried start attempt =>
    obtain ⟨skipped, behind, hplace, hskipped, rfl, hattempt⟩ := of_round?_tried h
    have hbrace := Text.from?_add hplace
    refine ⟨⟨skipped, Text.slice?_of_from? hplace, hskipped⟩,
      Text.slice?_of_from? (s := ['\x7b']) hbrace, (of_attempt? hbrace hattempt).1, ?_⟩
    cases hfound : attempt.found? with
    | none => simp only [Round.pos, hfound, Option.map_none, Option.getD_none]
    | some found =>
      obtain ⟨p, rest', -, rfl, hle, -⟩ := read?_of_found hbrace hattempt hfound
      exact ⟨rfl, hle, by rw [Round.pos, hfound]; rfl⟩

end Round

/-! ## Whole steps -/

section Step

variable {template rest : Text} {pos pos' : ℕ}

/-- The invariant of a scan: it stands at a place of the template. -/
theorem from?_of_reaches (h : Reaches template pos pos') (hplace : template.from? pos = some rest) :
    ∃ rest', template.from? pos' = some rest' := by
  induction h with
  | refl => exact ⟨rest, hplace⟩
  | tail _ hround _ =>
    obtain ⟨r, hround, rfl⟩ := hround
    exact from?_pos_of_round? hround

theorem lt_size_of_round?_tried {start : ℕ} {attempt : Attempt}
    (h : round? template pos = some (.tried start attempt)) :
    pos ≤ start ∧ start < template.size := by
  obtain ⟨skipped, behind, hplace, -, rfl, -⟩ := of_round?_tried h
  have hsize := Text.size_of_from? (Text.from?_add hplace)
  have hpos := Text.size_pos_of_ne_nil (List.cons_ne_nil '\x7b' behind)
  omega

/-- Goes on until a placeholder is found or no brace is left, and gives the
placeholder and the offset behind it. -/
def next? (template : Text) (pos : ℕ) : Option (Option Match × ℕ) :=
  match _h : round? template pos with
  | none => none
  | some .exhausted => some (none, template.size)
  | some (.tried start attempt) =>
    match attempt.found? with
    | some found => some (some found, found.stop)
    | none => next? template (start + 1)
termination_by template.size - pos
decreasing_by
  have := lt_size_of_round?_tried _h
  omega

theorem seek_append {skipped : Text} (h : '\x7b' ∉ skipped) (offset : ℕ) (rest : Text) :
    Cursor.seek offset (skipped ++ rest) = Cursor.seek (offset + skipped.size) rest := by
  induction skipped generalizing offset with
  | nil => rfl
  | cons c skipped ih =>
    obtain ⟨hc, hskipped⟩ := not_or.mp (mt List.mem_cons.mpr h)
    rw [List.cons_append, Cursor.seek, Placeholder.read?_cons_of_ne (Ne.symm hc)]
    simp only
    rw [ih hskipped, Text.size_cons, Nat.add_assoc]

/-- A step does what the cursor at its place does. -/
theorem next?_eq (hplace : template.from? pos = some rest) :
    next? template pos = some ((Cursor.seek pos rest).1.map Occurrence.toMatch,
        (Cursor.seek pos rest).2.offset) ∧
      template.from? (Cursor.seek pos rest).2.offset = some (Cursor.seek pos rest).2.rest ∧
      Reaches template pos (Cursor.seek pos rest).2.offset := by
  fun_induction next? template pos generalizing rest with
  | case1 pos hround =>
    obtain ⟨r, hround'⟩ := exists_round? hplace
    rw [hround] at hround'
    cases hround'
  | case2 pos hround =>
    obtain ⟨_, hplace', hrest⟩ := of_round?_exhausted hround
    obtain rfl := Option.some.inj (hplace.symm.trans hplace')
    have hseek : Cursor.seek pos rest = (none, ⟨template.size, []⟩) := by
      rw [Text.size_of_from? hplace]
      simpa [Cursor.seek] using seek_append hrest pos []
    rw [hseek]
    exact ⟨rfl, Text.from?_size template, .single ⟨_, hround, rfl⟩⟩
  | case3 pos start attempt hround found hfound =>
    obtain ⟨skipped, behind, hplace', hskipped, rfl, hattempt⟩ := of_round?_tried hround
    obtain rfl := Option.some.inj (hplace.symm.trans hplace')
    have hbrace := Text.from?_add hplace
    obtain ⟨p, rest', hread, rfl, -, hstop⟩ := read?_of_found hbrace hattempt hfound
    rw [seek_append hskipped, Cursor.seek, hread]
    exact ⟨rfl, hstop, .single ⟨_, hround, by rw [Round.pos, hfound]; rfl⟩⟩
  | case4 pos start attempt hround hfound ih =>
    obtain ⟨skipped, behind, hplace', hskipped, rfl, hattempt⟩ := of_round?_tried hround
    obtain rfl := Option.some.inj (hplace.symm.trans hplace')
    have hbrace := Text.from?_add hplace
    rw [seek_append hskipped, Cursor.seek, read?_of_not_found hbrace hattempt hfound]
    obtain ⟨hnext, hplace'', hreaches⟩ := ih (Text.from?_add (s := ['\x7b']) hbrace)
    exact ⟨hnext, hplace'', .head ⟨_, hround, by rw [Round.pos, hfound]; rfl⟩ hreaches⟩

/-- A step that finds a placeholder ends behind it, and the placeholder takes at
least three bytes. -/
theorem of_next?_some {found : Match} (h : next? template pos = some (some found, pos')) :
    pos' = found.stop ∧ pos ≤ found.start ∧ found.start + 3 ≤ found.stop ∧
      template.IsBoundary found.start ∧ template.IsBoundary found.stop := by
  fun_induction next? template pos with
  | case1 => cases h
  | case2 => cases h
  | case3 pos start attempt hround found' hfound =>
    simp only [Option.some.injEq, Prod.mk.injEq] at h
    obtain ⟨rfl, rfl⟩ := h
    obtain ⟨skipped, behind, hplace, -, rfl, hattempt⟩ := of_round?_tried hround
    have hbrace := Text.from?_add hplace
    obtain ⟨p, rest', -, rfl, hle, hstop⟩ := read?_of_found hbrace hattempt hfound
    exact ⟨rfl, Nat.le_add_right _ _, hle, Text.isBoundary_of_from? hbrace,
      Text.isBoundary_of_from? hstop⟩
  | case4 pos start attempt hround hfound ih =>
    obtain ⟨hpos', hle, hfound⟩ := ih h
    have := lt_size_of_round?_tried hround
    exact ⟨hpos', by omega, hfound⟩

/-- A step that finds nothing ends at the end of the template. -/
theorem eq_size_of_next?_none (h : next? template pos = some (none, pos')) :
    pos' = template.size := by
  fun_induction next? template pos with
  | case1 => cases h
  | case2 => exact (Prod.mk.inj (Option.some.inj h)).2.symm
  | case3 => simp at h
  | case4 pos start attempt hround hfound ih => exact ih h

theorem round?_size (template : Text) : round? template template.size = some .exhausted := by
  simp [round?, Text.from?_size, Text.cut?]

/-- At the end a scan stays where it is. -/
theorem eq_size_of_reaches (h : Reaches template template.size pos) : pos = template.size := by
  induction h with
  | refl => rfl
  | tail _ hround ih =>
    obtain ⟨r, hround, rfl⟩ := hround
    subst ih
    rw [round?_size] at hround
    cases hround
    rfl

theorem next?_size (template : Text) : next? template template.size = some (none, template.size) :=
  (next?_eq (Text.from?_size template)).1

end Step

/-! ## Whole scans -/

/-- All placeholders from an offset on. -/
def matchesFrom? (template : Text) (pos : ℕ) : Option (List Match) :=
  match _h : next? template pos with
  | none => none
  | some (none, _) => some []
  | some (some found, pos') => (matchesFrom? template pos').map (found :: ·)
termination_by template.size - pos
decreasing_by
  obtain ⟨rfl, hstart, hstop, -, hboundary⟩ := of_next?_some _h
  have := hboundary.le_size
  omega

/-- The offsets at which the texts around placeholders are cut out. -/
def gapCuts (template : Text) (cursor : ℕ) : List Match → List ℕ
  | [] => [cursor, template.size]
  | found :: others => cursor :: found.start :: gapCuts template found.stop others

theorem matchesFrom?_eq {template rest : Text} {pos : ℕ} (hplace : template.from? pos = some rest) :
    matchesFrom? template pos = some ((locate pos (pieces rest)).map Occurrence.toMatch) := by
  fun_induction matchesFrom? template pos generalizing rest with
  | case1 pos hnext =>
    rw [(next?_eq hplace).1] at hnext
    cases hnext
  | case2 pos pos' hnext =>
    rw [(next?_eq hplace).1, Option.some.injEq, Prod.mk.injEq, Option.map_eq_none_iff] at hnext
    have hnil : locate pos (pieces rest) = [] :=
      List.head?_eq_none_iff.mp ((Cursor.fst_next_eq_head? ⟨pos, rest⟩).symm.trans hnext.1)
    rw [hnil]
    rfl
  | case3 pos found pos' hnext ih =>
    obtain ⟨hnext', hplace', -⟩ := next?_eq hplace
    rw [hnext', Option.some.injEq, Prod.mk.injEq, Option.map_eq_some_iff] at hnext
    obtain ⟨⟨o, ho, rfl⟩, rfl⟩ := hnext
    have hcons : locate pos (pieces rest) = o :: (locate pos (pieces rest)).tail :=
      List.eq_cons_of_mem_head? ((Cursor.fst_next_eq_head? ⟨pos, rest⟩).symm.trans ho)
    have htail : locate (Cursor.seek pos rest).2.offset (pieces (Cursor.seek pos rest).2.rest) =
        (locate pos (pieces rest)).tail := Cursor.remaining_snd_next ⟨pos, rest⟩
    rw [ih hplace', htail, Option.map_some, ← List.map_cons, ← hcons]

theorem three_mul_length_le {template : Text} {pos : ℕ} {found : List Match}
    (hpos : pos ≤ template.size) (h : matchesFrom? template pos = some found) :
    3 * found.length ≤ template.size - pos := by
  fun_induction matchesFrom? template pos generalizing found with
  | case1 => cases h
  | case2 =>
    obtain rfl := Option.some.inj h
    exact Nat.zero_le _
  | case3 pos found' pos' hnext ih =>
    obtain ⟨others, hothers, rfl⟩ := Option.map_eq_some_iff.mp h
    obtain ⟨rfl, hstart, hstop, -, hboundary⟩ := of_next?_some hnext
    have hsize := hboundary.le_size
    have hlength := ih hsize hothers
    rw [List.length_cons]
    omega

theorem exists_gapCuts_eq_cons (template : Text) (cursor : ℕ) (found : List Match) :
    ∃ cuts, gapCuts template cursor found = cursor :: cuts := by
  cases found <;> exact ⟨_, rfl⟩

theorem cutsWell_gapCuts {template : Text} {pos : ℕ} {found : List Match}
    (hpos : template.IsBoundary pos) (h : matchesFrom? template pos = some found) :
    template.CutsWell (gapCuts template pos found) := by
  have hend := Text.isBoundary_of_from? (Text.from?_size template)
  fun_induction matchesFrom? template pos generalizing found with
  | case1 => cases h
  | case2 =>
    obtain rfl := Option.some.inj h
    exact ⟨by simpa [gapCuts] using hpos.le_size, by simp [gapCuts, hpos, hend]⟩
  | case3 pos found' pos' hnext ih =>
    obtain ⟨others, hothers, rfl⟩ := Option.map_eq_some_iff.mp h
    obtain ⟨rfl, hstart, hstop, hboundary, hboundary'⟩ := of_next?_some hnext
    have hcuts := ih hboundary' hothers
    obtain ⟨cuts, hcons⟩ := exists_gapCuts_eq_cons template found'.stop others
    rw [hcons] at hcuts
    rw [gapCuts, hcons]
    exact (hcuts.cons (by omega) hboundary).cons hstart hpos

end Template

/-! ## Resolving -/

namespace Record

/-- Resolves a template by the offsets of its placeholders: the message from an
offset on, and the keys without a value. -/
def fillFrom? (record : Record) (template : Text) (cursor : ℕ) :
    List Match → Option (Text × List Text)
  | [] => (template.from? cursor).map fun rest => (rest, [])
  | found :: others => do
    let gap ← template.slice? cursor found.start
    let (message, unknown) ← fillFrom? record template found.stop others
    match record.get? found.name with
    | some value => return (gap ++ value ++ message, unknown)
    | none => return (gap ++ message, found.name.asciiLower :: unknown)

/-- Resolves a template by reading and cutting it at byte offsets. -/
def resolveAtOffsets? (record : Record) (template : Text) : Option Resolution := do
  let found ← Template.matchesFrom? template 0
  let (message, unknown) ← fillFrom? record template 0 found
  return ⟨message, Names.ofList unknown⟩

variable (record : Record)

/-- The invariant of the loop: `literals` has been passed since the cursor. -/
theorem fillFrom?_locate {template : Text} {cursor : ℕ} (literals : Text) {ps : List Piece}
    (hplace : template.from? cursor = some (literals ++ ps.flatMap Piece.text)) :
    record.fillFrom? template cursor
        ((Template.locate (cursor + literals.size) ps).map Occurrence.toMatch) =
      some (literals ++ ps.flatMap record.fill,
        (ps.filterMap Piece.placeholder?).filterMap record.lacking?) := by
  induction ps generalizing cursor literals with
  | nil => simp [Template.locate, fillFrom?, hplace]
  | cons piece ps ih =>
    cases piece with
    | literal c =>
      have hoffset : cursor + literals.size + c.utf8Size = cursor + (literals ++ [c]).size := by
        simp [Nat.add_assoc]
      rw [Template.locate, hoffset, ih (literals ++ [c]) (by simpa [Piece.text] using hplace)]
      simp [fill, Piece.placeholder?, List.filterMap_cons]
    | placeholder p =>
      have hgap := Text.slice?_of_from? hplace
      have hstop : template.from? (cursor + literals.size + p.text.size) =
          some ([] ++ ps.flatMap Piece.text) := Text.from?_add (Text.from?_add hplace)
      have hrest := ih [] hstop
      rw [Text.size_nil, Nat.add_zero] at hrest
      rw [Template.locate, List.map_cons, fillFrom?]
      simp only [Occurrence.toMatch, Occurrence.stop, hgap, hrest, Option.bind_eq_bind,
        Option.bind_some]
      simp only [List.flatMap_cons, fill, get, List.filterMap_cons, Piece.placeholder?, lacking?]
      cases hvalue : record.get? p.name <;> simp [Placeholder.key]

theorem resolveAtOffsets?_eq (template : Text) :
    record.resolveAtOffsets? template = some (record.resolve template) := by
  have hplace : template.from? 0 = some ([] ++ (Template.pieces template).flatMap Piece.text) := by
    rw [List.nil_append, Template.flatMap_text_pieces, Text.from?_zero]
  have hfill := record.fillFrom?_locate [] hplace
  rw [Text.size_nil, Nat.add_zero] at hfill
  rw [resolveAtOffsets?, Template.matchesFrom?_eq (Text.from?_zero template)]
  simp only [Option.bind_eq_bind, Option.bind_some, hfill]
  rfl

end Record

/-! ## Safety -/

namespace Template

/-- What safe scanning of a template is. -/
structure ScansSafely (template : Text) : Prop where
  /-- Wherever a scan comes to, it stands between two characters. -/
  boundary : ∀ pos, Reaches template 0 pos → pos ≤ template.size ∧ template.IsBoundary pos
  /-- No access of a round fails. -/
  round : ∀ pos, Reaches template 0 pos →
    ∃ r, round? template pos = some r ∧ r.IsSound template pos
  /-- Steps have a result, and they are those of a cursor. -/
  next : ∀ pos, Reaches template 0 pos → ∃ rest found pos', template.from? pos = some rest ∧
    next? template pos = some (found, pos') ∧ Reaches template 0 pos' ∧
    (Cursor.mk pos rest).next.1.map Occurrence.toMatch = found ∧
    (Cursor.mk pos rest).next.2.offset = pos'
  /-- A step that finds a placeholder goes at least three bytes ahead. -/
  advance : ∀ pos found pos', Reaches template 0 pos →
    next? template pos = some (some found, pos') → pos' = found.stop ∧ pos + 3 ≤ pos'
  /-- Once a step finds nothing, no step finds anything. -/
  fused : ∀ pos pos' later, Reaches template 0 pos → next? template pos = some (none, pos') →
    Reaches template pos' later → next? template later = some (none, later)
  /-- A whole scan has a result, with one placeholder to three bytes at most,
  and the texts around the placeholders can be cut out. -/
  scan : ∃ found, matchesFrom? template 0 = some found ∧
    found = (occurrences template).map Occurrence.toMatch ∧
    found.length ≤ template.size / 3 ∧ template.CutsWell (gapCuts template 0 found)
  /-- Cutting them out is how the template is resolved. -/
  resolve : ∀ record : Record, record.resolveAtOffsets? template = some (record.resolve template)

/-- **Safe scanning.** From the beginning of any template, no cut of a scan fails
and none is made inside a character. Failed attempts end just behind the brace
that was tried, successful steps go at least three bytes ahead, so there is a
last one, and after it there is nothing more to find. -/
theorem scan_isSafe (template : Text) : ScansSafely template := by
  have hplace {pos : ℕ} (h : Reaches template 0 pos) : ∃ rest, template.from? pos = some rest :=
    from?_of_reaches h (Text.from?_zero template)
  constructor
  case boundary =>
    intro pos h
    obtain ⟨rest, hrest⟩ := hplace h
    exact ⟨(Text.isBoundary_of_from? hrest).le_size, Text.isBoundary_of_from? hrest⟩
  case round =>
    intro pos h
    obtain ⟨rest, hrest⟩ := hplace h
    obtain ⟨r, hround⟩ := exists_round? hrest
    exact ⟨r, hround, isSound_of_round? hround⟩
  case next =>
    intro pos h
    obtain ⟨rest, hrest⟩ := hplace h
    obtain ⟨hnext, -, hreaches⟩ := next?_eq hrest
    exact ⟨rest, _, _, hrest, hnext, h.trans hreaches, rfl, rfl⟩
  case advance =>
    intro pos found pos' h hnext
    obtain ⟨rfl, hstart, hstop, -, -⟩ := of_next?_some hnext
    exact ⟨rfl, by omega⟩
  case fused =>
    intro pos pos' later h hnext hlater
    obtain rfl := eq_size_of_next?_none hnext
    rw [eq_size_of_reaches hlater, next?_size]
  case scan =>
    have hscan := matchesFrom?_eq (Text.from?_zero template)
    have hlength := three_mul_length_le (Nat.zero_le _) hscan
    refine ⟨_, hscan, rfl, by omega, cutsWell_gapCuts ?_ hscan⟩
    exact Text.isBoundary_of_from? (Text.from?_zero template)
  case resolve => exact fun record => record.resolveAtOffsets?_eq template

end Template

end FormLetter
