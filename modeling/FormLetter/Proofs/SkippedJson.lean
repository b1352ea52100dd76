import FormLetter.Proofs.JsonValues

/-!
# Skipped values

A value that nobody asks for is left out by a scan that keeps no value, only the kinds of the lists
and objects that are still open. The scan leaves out what the writer puts out for a value, however
deep it is nested and wherever it stands.

* `Scan.Reaches`: some rounds of the scan lead from one state to another.
* `skips_print`: the rounds over a written value end behind it, and open no list or object that
  they do not close.
* `skipValue?_print`: so a written value is left out as a whole.
-/

namespace FormLetter.Json

open Text

/-! ## The scan -/

/-- A state of the scan: what is open, whether a value has just ended, and the
bytes ahead. -/
structure Scan where
  frames : List Bool
  ready : Bool
  bytes : List UInt8

/-- What the scan gives within a number of rounds. -/
def Scan.run (s : Scan) (fuel : ℕ) : Option (List UInt8) := skipOpen? fuel s.frames s.ready s.bytes

/-- At most `n` rounds lead from one state to another. -/
def Scan.Reaches (n : ℕ) (s s' : Scan) : Prop :=
  ∃ k ≤ n, ∀ fuel, s.run (fuel + k) = s'.run fuel

namespace Scan

theorem Reaches.trans {m n : ℕ} {s t u : Scan} (h : Reaches m s t) (h' : Reaches n t u) :
    Reaches (m + n) s u := by
  obtain ⟨j, hj, hrun⟩ := h
  obtain ⟨k, hk, hrun'⟩ := h'
  refine ⟨k + j, by omega, fun fuel => ?_⟩
  rw [← Nat.add_assoc, hrun, hrun']

theorem Reaches.mono {m n : ℕ} {s t : Scan} (h : Reaches m s t) (hmn : m ≤ n) : Reaches n s t := by
  obtain ⟨k, hk, hrun⟩ := h
  exact ⟨k, by omega, hrun⟩

/-- One round. -/
theorem Reaches.step {s s' : Scan} (h : ∀ fuel, s.run (fuel + 1) = s'.run fuel) : Reaches 1 s s' :=
  ⟨1, Nat.le_refl 1, h⟩

/-! ## What one round does -/

theorem reaches_comma (frame : Bool) (frames : List Bool) (rest : List UInt8) :
    Reaches 1 ⟨frame :: frames, true, 0x2C :: rest⟩ ⟨frame :: frames, false, rest⟩ :=
  .step fun fuel => by simp [run, skipOpen?, skipBlanks_cons, isBlankByte]

theorem reaches_bracket (frames : List Bool) (rest : List UInt8) :
    Reaches 1 ⟨false :: frames, true, 0x5D :: rest⟩ ⟨frames, true, rest⟩ :=
  .step fun fuel => by simp [run, skipOpen?, skipBlanks_cons, isBlankByte]

theorem reaches_brace (frames : List Bool) (rest : List UInt8) :
    Reaches 1 ⟨true :: frames, true, 0x7D :: rest⟩ ⟨frames, true, rest⟩ :=
  .step fun fuel => by simp [run, skipOpen?, skipBlanks_cons, isBlankByte]

/-- The bytes of a value with its name in front if it stands in an object. -/
def member (frames : List Bool) (name : Text) (value : List UInt8) : List UInt8 :=
  match frames with
  | true :: _ => utf8 (stringText name) ++ 0x3A :: value
  | _ => value

/-- The round over the first bytes of a value. -/
def round (fuel : ℕ) (frames : List Bool) (value : List UInt8) : Option (List UInt8) :=
  match skipBlanks value with
  | 0x22 :: rest => (skipString? rest).bind fun rest => skipOpen? fuel frames true rest
  | 0x5B :: rest =>
    match skipBlanks rest with
    | 0x5D :: rest => skipOpen? fuel frames true rest
    | rest => skipOpen? fuel (false :: frames) false rest
  | 0x7B :: rest =>
    match skipBlanks rest with
    | 0x7D :: rest => skipOpen? fuel frames true rest
    | rest => skipOpen? fuel (true :: frames) false rest
  | 0x6E :: rest => (word? "ull" rest).bind fun rest => skipOpen? fuel frames true rest
  | 0x74 :: rest => (word? "rue" rest).bind fun rest => skipOpen? fuel frames true rest
  | 0x66 :: rest => (word? "alse" rest).bind fun rest => skipOpen? fuel frames true rest
  | bytes => (numeral? bytes).bind fun r => skipOpen? fuel frames true r.2

/-- A name in front of a value is left out in the same round. -/
theorem run_member (frames : List Bool) (name : Text) (value : List UInt8) (fuel : ℕ) :
    (⟨frames, false, member frames name value⟩ : Scan).run (fuel + 1) =
      round fuel frames value := by
  match frames with
  | [] => rfl
  | false :: frames => rfl
  | true :: frames =>
    simp only [run, member, utf8_stringText, skipOpen?, skipBlanks_cons (b := 0x22) (by decide)]
    simp only [skipString?_stringText, colon?_cons, Option.bind_eq_bind, Option.bind_some]
    rfl

/-! ## Written values -/

/-- The rounds over a value end behind it, with the same lists and objects
open. -/
def Skips (v : Json) : Prop :=
  ∀ (frames : List Bool) (name : Text) (rest : List UInt8), EndsNumeral rest →
    Reaches (print v).length ⟨frames, false, member frames name (utf8 (print v) ++ rest)⟩
      ⟨frames, true, rest⟩

/-- The rounds over the items of a list end behind its closing bracket. -/
theorem reaches_items {item : Json} {items : List Json} (h : ∀ v ∈ item :: items, Skips v)
    (frames : List Bool) (rest : List UInt8) :
    Reaches ((print item).length + (printItems items).length + 1)
      ⟨false :: frames, false, utf8 (print item) ++ (utf8 (printItems items) ++ 0x5D :: rest)⟩
      ⟨frames, true, rest⟩ := by
  induction items generalizing item with
  | nil =>
    have hitem := h item (by simp) (false :: frames) [] _
      (endsNumeral_printItems [] rest)
    exact hitem.trans (reaches_bracket frames rest)
  | cons next items ih =>
    rw [List.forall_mem_cons] at h
    have hitem := h.1 (false :: frames) [] _
      (endsNumeral_printItems (next :: items) rest)
    rw [utf8_printItems] at hitem ⊢
    refine ((hitem.trans (reaches_comma _ _ _)).trans (ih h.2)).mono ?_
    simp [printItems]
    omega

/-- The rounds over the members of an object end behind its closing brace. -/
theorem reaches_members {name : Text} {value : Json} {members : List (Text × Json)}
    (h : ∀ m ∈ (name, value) :: members, Skips m.2) (frames : List Bool) (rest : List UInt8) :
    Reaches ((print value).length + (printMembers members).length + 1)
      ⟨true :: frames, false, utf8 (stringText name) ++ 0x3A :: (utf8 (print value) ++
        (utf8 (printMembers members) ++ 0x7D :: rest))⟩ ⟨frames, true, rest⟩ := by
  induction members generalizing name value with
  | nil =>
    have hvalue := h (name, value) (by simp) (true :: frames) name _
      (endsNumeral_printMembers [] rest)
    exact hvalue.trans (reaches_brace frames rest)
  | cons next members ih =>
    rw [List.forall_mem_cons] at h
    have hvalue := h.1 (true :: frames) name _
      (endsNumeral_printMembers (next :: members) rest)
    rw [utf8_printMembers] at hvalue ⊢
    refine ((hvalue.trans (reaches_comma _ _ _)).trans (ih h.2)).mono ?_
    simp [printMembers]
    omega

/-- A value is over after one round if a reader takes all of it at once. -/
theorem skips_of_run {v : Json} {depth : ℕ} (h : v.Fits depth)
    (hrun : ∀ (frames : List Bool) (name : Text) (rest : List UInt8) (fuel : ℕ),
      EndsNumeral rest → (⟨frames, false, member frames name (utf8 (print v) ++ rest)⟩ : Scan).run
        (fuel + 1) = skipOpen? fuel frames true rest) : Skips v := by
  intro frames name rest hrest
  obtain ⟨n, hn⟩ := exists_succ_of_length_print_le h (Nat.le_refl _)
  exact (Reaches.step fun fuel => hrun frames name rest fuel hrest).mono (by omega)

theorem skips_integer (n : ℤ) {depth : ℕ} (h : (integer n).Fits depth) : Skips (integer n) := by
  refine skips_of_run h fun frames name rest fuel hrest => ?_
  have hnumeral := numeral?_ofInt n hrest
  obtain ⟨b, bytes, hbytes, hstart⟩ := exists_utf8_ofInt n
  rw [print, run_member, round]
  rw [hbytes, List.cons_append] at hnumeral ⊢
  rw [skipBlanks_cons hstart.isBlankByte_eq]
  split
  case h_7 => simp [hnumeral]
  all_goals
    rename_i heq
    rw [(List.cons.inj heq).1] at hstart
    simp [StartsNumeral, isDigitByte] at hstart

theorem skips_list {items : List Json} {depth : ℕ} (h : (list items).Fits depth)
    (hskips : ∀ v ∈ items, Skips v) : Skips (list items) := by
  have hitems := itemsFit_iff.mp h.2
  cases items with
  | nil =>
    refine skips_of_run h fun frames name rest fuel _ => ?_
    change (⟨frames, false, member frames name (0x5B :: 0x5D :: rest)⟩ : Scan).run _ = _
    rw [run_member, round, skipBlanks_cons (by decide)]
    simp [skipBlanks_cons, isBlankByte]
  | cons item items =>
    intro frames name rest hrest
    have hrun := reaches_items hskips frames rest
    obtain ⟨b, bytes, hbytes, hblank, hbracket, -⟩ :=
      startsValue_print (hitems item (by simp)) (utf8 (printItems items) ++ 0x5D :: rest)
    rw [utf8_print_list]
    refine Reaches.mono ((Reaches.step fun fuel => ?_).trans hrun) (by simp [print]; omega)
    rw [run_member, round, skipBlanks_cons (by decide), hbytes]
    simp [skipBlanks_cons hblank, hbracket, run]

theorem skips_object {members : List (Text × Json)} {depth : ℕ} (h : (object members).Fits depth)
    (hskips : ∀ m ∈ members, Skips m.2) : Skips (object members) := by
  cases members with
  | nil =>
    refine skips_of_run h fun frames name rest fuel _ => ?_
    change (⟨frames, false, member frames name (0x7B :: 0x7D :: rest)⟩ : Scan).run _ = _
    rw [run_member, round, skipBlanks_cons (by decide)]
    simp [skipBlanks_cons, isBlankByte]
  | cons m members =>
    obtain ⟨name', value⟩ := m
    intro frames name rest hrest
    have hrun := reaches_members hskips frames rest
    rw [utf8_print_object]
    refine Reaches.mono ((Reaches.step fun fuel => ?_).trans hrun) (by simp [print]; omega)
    rw [run_member, round, skipBlanks_cons (by decide), utf8_stringText]
    simp [skipBlanks_cons, isBlankByte, run]

/-- A written value is left out as a whole. -/
theorem skips_print (v : Json) {depth : ℕ} (h : v.Fits depth) : Skips v := by
  induction v using induction generalizing depth with
  | null =>
    refine skips_of_run h fun frames name rest fuel _ => ?_
    change (⟨frames, false, member frames name (0x6E :: (utf8 "ull".toList ++ rest))⟩ : Scan).run _
      = _
    rw [run_member, round, skipBlanks_cons (by decide)]
    simp only [word?_append, Option.bind_some]
  | bool b =>
    refine skips_of_run h fun frames name rest fuel _ => ?_
    cases b with
    | false =>
      change (⟨frames, false, member frames name (0x66 :: (utf8 "alse".toList ++ rest))⟩ : Scan).run
        _ = _
      rw [run_member, round, skipBlanks_cons (by decide)]
      simp only [word?_append, Option.bind_some]
    | true =>
      change (⟨frames, false, member frames name (0x74 :: (utf8 "rue".toList ++ rest))⟩ : Scan).run
        _ = _
      rw [run_member, round, skipBlanks_cons (by decide)]
      simp only [word?_append, Option.bind_some]
  | integer n => exact skips_integer n h
  | float x => exact h.elim
  | text t =>
    refine skips_of_run h fun frames name rest fuel _ => ?_
    rw [print, utf8_stringText, run_member, round, skipBlanks_cons (by decide)]
    simp only [skipString?_stringText, Option.bind_some]
  | list items ih => exact skips_list h fun v hv => ih v hv (itemsFit_iff.mp h.2 v hv)
  | object members ih => exact skips_object h fun m hm => ih m hm (membersFit_iff.mp h.2 m hm)

end Scan

/-- **Skipping a written value.** The bytes after it are left. -/
theorem skipValue?_print {v : Json} {depth : ℕ} (h : v.Fits depth) {rest : List UInt8}
    (hrest : EndsNumeral rest) : skipValue? (utf8 (print v) ++ rest) = some rest := by
  obtain ⟨k, hk, hrun⟩ := Scan.skips_print v h [] [] rest hrest
  have hlength := length_le_length_utf8 (print v)
  obtain ⟨fuel, hfuel⟩ : ∃ n, (utf8 (print v) ++ rest).length + 2 = n + 1 + k := by
    rw [List.length_append]
    exact ⟨(utf8 (print v)).length + rest.length + 1 - k, by omega⟩
  rw [skipValue?, hfuel]
  exact hrun (fuel + 1)

end FormLetter.Json
