import FormLetter.Proofs.ByteOffset
import FormLetter.Proofs.Grammar
import FormLetter.Template
import Mathlib.Data.List.Basic
import Mathlib.Order.Bounds.Basic

/-!
# Scanning finds the leftmost, greedy matches

Specification: `IsScan template occs` says that `occs` are the leftmost,
greedy, non-overlapping matches of the grammar in the template, by byte
offsets alone and without saying how they are found.

Results:

* `isScan_iff_eq_occurrences`: the occurrences of a template are such matches,
  and nothing else is.
* `exists_read?_of_mem_occurrences`: every occurrence is read at its offset.
* `pairwise_occurrences`: occurrences do not overlap.
-/

namespace FormLetter.Template

/-! ## Specification -/

/-- A text of the grammar begins at the byte offset `k` of a template. -/
def BeginsAt (template : Text) (k : ℕ) : Prop :=
  ∃ before s after, template = before ++ s ++ after ∧ before.size = k ∧ IsPlaceholder s

/-- The byte offset behind the last of some occurrences, and the beginning of
the template if there is none. -/
def stopOf (occs : List Occurrence) : ℕ := (occs.getLast?.map Occurrence.stop).getD 0

/-- The leftmost, greedy, non-overlapping matches of the grammar. -/
structure IsScan (template : Text) (occs : List Occurrence) : Prop where
  /-- What stands between the offsets of an occurrence are its opening braces,
  its name and its closing braces. -/
  slice_eq : ∀ o ∈ occs, template.slice? o.start o.stop =
    some (List.replicate o.placeholder.opening.count '\x7b' ++ o.placeholder.name ++
      List.replicate o.placeholder.closing.count '\x7d')
  isName_name : ∀ o ∈ occs, isName o.placeholder.name = true
  ordered : occs.Pairwise fun o o' => o.stop ≤ o'.start
  /-- Every text of the grammar begins inside an occurrence. -/
  covered : ∀ k, BeginsAt template k → ∃ o ∈ occs, o.start ≤ k ∧ k < o.stop
  /-- An occurrence is at the first offset behind the one before it at which a
  text of the grammar begins. -/
  leftmost : ∀ before o after, occs = before ++ o :: after →
    IsLeast {k | stopOf before ≤ k ∧ BeginsAt template k} o.start
  /-- A single closing brace is not followed by another. -/
  greedy : ∀ o ∈ occs, o.placeholder.closing = .one →
    template.slice? o.stop (o.stop + 1) ≠ some ['\x7d']

/-! ## Spans -/

theorem size_text_pos (p : Placeholder) : 0 < p.text.size :=
  Text.size_pos_of_ne_nil (List.ne_nil_of_length_pos p.length_text_pos)

theorem start_lt_stop (o : Occurrence) : o.start < o.stop := by
  have := size_text_pos o.placeholder
  unfold Occurrence.stop
  omega

theorem le_start_of_mem_locate {offset : ℕ} {ps : List Piece} {o : Occurrence}
    (h : o ∈ locate offset ps) : offset ≤ o.start := by
  induction ps generalizing offset with
  | nil => cases h
  | cons piece ps ih =>
    cases piece with
    | literal c =>
      have := ih h
      omega
    | placeholder p =>
      rcases List.mem_cons.mp h with rfl | h
      · exact Nat.le_refl _
      · have := ih h
        omega

theorem pairwise_locate (offset : ℕ) (ps : List Piece) :
    (locate offset ps).Pairwise fun o o' => o.stop ≤ o'.start := by
  induction ps generalizing offset with
  | nil => exact List.Pairwise.nil
  | cons piece ps ih =>
    cases piece with
    | literal c => exact ih _
    | placeholder p =>
      exact List.pairwise_cons.mpr ⟨fun o' ho' => le_start_of_mem_locate ho', ih _⟩

theorem pairwise_occurrences (template : Text) :
    (occurrences template).Pairwise fun o o' => o.stop ≤ o'.start :=
  pairwise_locate 0 _

theorem exists_read?_of_mem_locate {t : Text} {offset : ℕ} {o : Occurrence}
    (h : o ∈ locate offset (pieces t)) :
    ∃ before rest, t = before ++ (o.placeholder.text ++ rest) ∧
      offset + before.size = o.start ∧
      Placeholder.read? (o.placeholder.text ++ rest) = some (o.placeholder, rest) := by
  fun_induction pieces t generalizing offset with
  | case1 => cases h
  | case2 c following p rest hread ih =>
    have ht := Placeholder.eq_append_of_read? hread
    rcases List.mem_cons.mp h with rfl | h
    · exact ⟨[], rest, ht, rfl, ht ▸ hread⟩
    · obtain ⟨before, rest', rfl, hstart, hread'⟩ := ih h
      refine ⟨p.text ++ before, rest', ?_, ?_, hread'⟩
      · rw [ht, List.append_assoc]
      · rw [Text.size_append, ← hstart, Nat.add_assoc]
  | case3 c following hread ih =>
    obtain ⟨before, rest, rfl, hstart, hread'⟩ := ih h
    refine ⟨c :: before, rest, rfl, ?_, hread'⟩
    rw [Text.size_cons, ← hstart, Nat.add_assoc]

/-- An occurrence is read at its offset. -/
theorem exists_read?_of_mem_occurrences {template : Text} {o : Occurrence}
    (h : o ∈ occurrences template) :
    ∃ before rest, template = before ++ (o.placeholder.text ++ rest) ∧ before.size = o.start ∧
      Placeholder.read? (o.placeholder.text ++ rest) = some (o.placeholder, rest) := by
  obtain ⟨before, rest, ht, hstart, hread⟩ := exists_read?_of_mem_locate h
  exact ⟨before, rest, ht, by omega, hread⟩

theorem slice?_occurrence {template before rest : Text} {o : Occurrence}
    (ht : template = before ++ (o.placeholder.text ++ rest)) (hstart : before.size = o.start) :
    template.slice? o.start o.stop = some o.placeholder.text := by
  rw [ht, ← List.append_assoc, Occurrence.stop, ← hstart]
  exact Text.slice?_append _ _ _

/-- What follows an occurrence begins with a closing brace exactly when the
next byte is one. -/
theorem slice?_stop_iff {template before rest : Text} {o : Occurrence}
    (ht : template = before ++ (o.placeholder.text ++ rest)) (hstart : before.size = o.start) :
    template.slice? o.stop (o.stop + 1) = some ['\x7d'] ↔ rest.head? = some '\x7d' := by
  have hstop : (before ++ o.placeholder.text).size = o.stop := by
    rw [Text.size_append, hstart, Occurrence.stop]
  rw [ht, ← List.append_assoc]
  constructor
  · intro h
    obtain ⟨before', after, heq, hsize, -⟩ := Text.slice?_eq_some_iff.mp h
    rw [List.append_assoc before'] at heq
    obtain ⟨-, hrest⟩ := Text.append_inj_size heq (hstop.trans hsize.symm)
    rw [hrest]
    rfl
  · intro h
    cases rest with
    | nil => cases h
    | cons c rest =>
      obtain rfl : c = '\x7d' := Option.some.inj h
      refine Text.slice?_eq_some_iff.mpr ⟨before ++ o.placeholder.text, rest, ?_, hstop, ?_⟩
      · simp
      · rw [hstop]
        rfl

/-! ## Nothing is missed -/

theorem exists_mem_locate_of_isPlaceholder {t mid s after : Text} (offset : ℕ)
    (ht : t = mid ++ (s ++ after)) (hs : IsPlaceholder s) :
    ∃ o ∈ locate offset (pieces t), o.start ≤ offset + mid.size ∧ offset + mid.size < o.stop := by
  fun_induction pieces t generalizing offset mid with
  | case1 =>
    obtain ⟨p, rest, hread⟩ := Placeholder.exists_read?_of_isPlaceholder hs after
    obtain ⟨-, hnil⟩ := List.append_eq_nil_iff.mp ht.symm
    rw [hnil] at hread
    cases hread
  | case2 c following p rest hread ih =>
    rw [Placeholder.eq_append_of_read? hread] at ht
    by_cases hmid : mid.size < p.text.size
    · -- the match begins inside the placeholder that was read
      refine ⟨⟨p, offset⟩, List.mem_cons_self .., Nat.le_add_right _ _, ?_⟩
      exact Nat.add_lt_add_left hmid offset
    · obtain ⟨mid', rfl, hrest⟩ := Text.exists_append_of_size_le ht (Nat.le_of_not_lt hmid)
      obtain ⟨o, ho, hstart, hstop⟩ := ih (offset + p.text.size) hrest
      rw [Text.size_append, ← Nat.add_assoc]
      exact ⟨o, List.mem_cons_of_mem _ ho, hstart, hstop⟩
  | case3 c following hread ih =>
    cases mid with
    | nil =>
      -- a match begins here, so reading could not have failed
      obtain ⟨p, rest, hread'⟩ := Placeholder.exists_read?_of_isPlaceholder hs after
      rw [ht, List.nil_append, hread'] at hread
      cases hread
    | cons c' mid' =>
      obtain ⟨rfl, hfollowing⟩ := List.cons.inj ht
      rw [Text.size_cons, ← Nat.add_assoc]
      exact ih _ hfollowing

theorem exists_mem_occurrences_of_beginsAt {template : Text} {k : ℕ}
    (h : BeginsAt template k) : ∃ o ∈ occurrences template, o.start ≤ k ∧ k < o.stop := by
  obtain ⟨before, s, after, ht, rfl, hs⟩ := h
  rw [List.append_assoc] at ht
  simpa only [occurrences, Nat.zero_add] using
    exists_mem_locate_of_isPlaceholder 0 ht hs

/-! ## The first match behind an offset -/

@[simp] theorem stopOf_nil : stopOf [] = 0 := rfl

@[simp] theorem stopOf_concat (before : List Occurrence) (o : Occurrence) :
    stopOf (before ++ [o]) = o.stop := by
  simp [stopOf]

theorem stop_le_stopOf {occs : List Occurrence}
    (hordered : occs.Pairwise fun o o' => o.stop ≤ o'.start) {o : Occurrence} (ho : o ∈ occs) :
    o.stop ≤ stopOf occs := by
  rcases List.eq_nil_or_concat' occs with rfl | ⟨init, last, rfl⟩
  · cases ho
  · rw [stopOf_concat]
    rcases List.mem_append.mp ho with ho | ho
    · have hle := (List.pairwise_append.mp hordered).2.2 o ho last (List.mem_singleton_self _)
      have hlt := start_lt_stop last
      omega
    · rw [List.mem_singleton.mp ho]

theorem stopOf_le_start {before after : List Occurrence} {o : Occurrence}
    (hordered : (before ++ o :: after).Pairwise fun o o' => o.stop ≤ o'.start) :
    stopOf before ≤ o.start := by
  rcases List.eq_nil_or_concat' before with rfl | ⟨init, last, rfl⟩
  · exact Nat.zero_le _
  · rw [stopOf_concat]
    exact (List.pairwise_append.mp hordered).2.2 last (by simp) o (List.mem_cons_self ..)

/-- Matches that cover all texts of the grammar without overlapping are each
at the first possible offset. -/
theorem isLeast_start {template : Text} {before after : List Occurrence} {o : Occurrence}
    (hordered : (before ++ o :: after).Pairwise fun o o' => o.stop ≤ o'.start)
    (hcovered : ∀ k, BeginsAt template k →
      ∃ o' ∈ before ++ o :: after, o'.start ≤ k ∧ k < o'.stop)
    (hbegins : BeginsAt template o.start) :
    IsLeast {k | stopOf before ≤ k ∧ BeginsAt template k} o.start := by
  refine ⟨⟨stopOf_le_start hordered, hbegins⟩, ?_⟩
  rintro k ⟨hk, hbegins'⟩
  obtain ⟨o', ho', hstart, hstop⟩ := hcovered k hbegins'
  obtain ⟨hbefore, hrest, -⟩ := List.pairwise_append.mp hordered
  rcases List.mem_append.mp ho' with ho' | ho'
  · have := stop_le_stopOf hbefore ho'
    omega
  · rcases List.mem_cons.mp ho' with rfl | ho'
    · exact hstart
    · have hle := (List.pairwise_cons.mp hrest).1 o' ho'
      have hlt := start_lt_stop o
      omega

theorem beginsAt_of_slice? {template : Text} {o : Occurrence}
    (hslice : template.slice? o.start o.stop = some o.placeholder.text)
    (hname : isName o.placeholder.name = true) : BeginsAt template o.start := by
  obtain ⟨before, after, ht, hstart, -⟩ := Text.slice?_eq_some_iff.mp hslice
  exact ⟨before, o.placeholder.text, after, ht, hstart, Placeholder.isPlaceholder_text hname⟩

theorem isScan_occurrences (template : Text) : IsScan template (occurrences template) where
  slice_eq o ho := by
    obtain ⟨before, rest, ht, hstart, -⟩ := exists_read?_of_mem_occurrences ho
    exact slice?_occurrence ht hstart
  isName_name o ho := by
    obtain ⟨before, rest, -, -, hread⟩ := exists_read?_of_mem_occurrences ho
    exact Placeholder.isName_of_read? hread
  ordered := pairwise_occurrences template
  covered k hk := exists_mem_occurrences_of_beginsAt hk
  leftmost before o after heq := by
    have ho : o ∈ occurrences template := by simp [heq]
    obtain ⟨_, rest, ht, hstart, hread⟩ := exists_read?_of_mem_occurrences ho
    refine isLeast_start (heq ▸ pairwise_occurrences template) (fun k hk => ?_) ?_
    · exact heq ▸ exists_mem_occurrences_of_beginsAt hk
    · exact beginsAt_of_slice? (slice?_occurrence ht hstart) (Placeholder.isName_of_read? hread)
  greedy o ho hone := by
    obtain ⟨before, rest, ht, hstart, hread⟩ := exists_read?_of_mem_occurrences ho
    rw [ne_eq, slice?_stop_iff ht hstart]
    exact Placeholder.head?_ne_of_read? hread hone

/-! ## Uniqueness -/

/-- An occurrence is the first match at or behind a byte offset, and a greedy
one. -/
structure IsNext (template : Text) (offset : ℕ) (o : Occurrence) : Prop where
  isLeast : IsLeast {k | offset ≤ k ∧ BeginsAt template k} o.start
  slice_eq : template.slice? o.start o.stop = some o.placeholder.text
  isName_name : isName o.placeholder.name = true
  greedy : o.placeholder.closing = .one → template.slice? o.stop (o.stop + 1) ≠ some ['\x7d']

theorem IsNext.read? {template : Text} {offset : ℕ} {o : Occurrence}
    (h : IsNext template offset o) :
    ∃ before rest, template = before ++ (o.placeholder.text ++ rest) ∧ before.size = o.start ∧
      Placeholder.read? (o.placeholder.text ++ rest) = some (o.placeholder, rest) := by
  obtain ⟨before, rest, ht, hstart, -⟩ := Text.slice?_eq_some_iff.mp h.slice_eq
  rw [List.append_assoc] at ht
  refine ⟨before, rest, ht, hstart, Placeholder.read?_text_append h.isName_name fun hone => ?_⟩
  rw [ne_eq, ← slice?_stop_iff ht hstart]
  exact h.greedy hone

theorem IsNext.unique {template : Text} {offset : ℕ} {o o' : Occurrence}
    (h : IsNext template offset o) (h' : IsNext template offset o') : o = o' := by
  obtain ⟨before, rest, ht, hstart, hread⟩ := h.read?
  obtain ⟨before', rest', ht', hstart', hread'⟩ := h'.read?
  have hstarts : o.start = o'.start := h.isLeast.unique h'.isLeast
  obtain ⟨-, hrest⟩ := Text.append_inj_size (ht.symm.trans ht') (by omega)
  rw [hrest, hread'] at hread
  have hp : o'.placeholder = o.placeholder := congrArg Prod.fst (Option.some.inj hread)
  cases o
  cases o'
  simp_all

/-- The occurrences from a byte offset on: each is the first match behind the
one before it, and no match begins behind the last. -/
def ScansFrom (template : Text) : ℕ → List Occurrence → Prop
  | offset, [] => ∀ k, offset ≤ k → ¬BeginsAt template k
  | offset, o :: occs => IsNext template offset o ∧ ScansFrom template o.stop occs

theorem ScansFrom.unique {template : Text} {offset : ℕ} {occs occs' : List Occurrence}
    (h : ScansFrom template offset occs) (h' : ScansFrom template offset occs') :
    occs = occs' := by
  induction occs generalizing offset occs' with
  | nil =>
    cases occs' with
    | nil => rfl
    | cons o' occs' => exact absurd h'.1.isLeast.1.2 (h _ h'.1.isLeast.1.1)
  | cons o occs ih =>
    cases occs' with
    | nil => exact absurd h.1.isLeast.1.2 (h' _ h.1.isLeast.1.1)
    | cons o' occs' =>
      obtain rfl := h.1.unique h'.1
      rw [ih h.2 h'.2]

theorem IsScan.scansFrom {template : Text} {occs : List Occurrence} (h : IsScan template occs)
    (before after : List Occurrence) (heq : occs = before ++ after) :
    ScansFrom template (stopOf before) after := by
  induction after generalizing before with
  | nil =>
    intro k hk hbegins
    obtain ⟨o, ho, -, hstop⟩ := h.covered k hbegins
    rw [List.append_nil] at heq
    have := stop_le_stopOf h.ordered ho
    rw [heq] at this
    omega
  | cons o after ih =>
    have ho : o ∈ occs := by simp [heq]
    refine ⟨⟨h.leftmost before o after heq, h.slice_eq o ho, h.isName_name o ho,
      h.greedy o ho⟩, ?_⟩
    have := ih (before ++ [o]) (by simp [heq])
    rwa [stopOf_concat] at this

/-- **Scanning.** The occurrences of a template are the leftmost, greedy,
non-overlapping matches of the grammar, and there is no other list of such
matches. -/
theorem isScan_iff_eq_occurrences (template : Text) (occs : List Occurrence) :
    IsScan template occs ↔ occs = occurrences template := by
  constructor
  · intro h
    exact (h.scansFrom [] occs rfl).unique
      ((isScan_occurrences template).scansFrom [] _ rfl)
  · rintro rfl
    exact isScan_occurrences template

end FormLetter.Template
