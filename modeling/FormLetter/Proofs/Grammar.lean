import FormLetter.Placeholder
import Mathlib.Data.Nat.Notation
import Mathlib.Tactic.Common

/-!
# The grammar of placeholders

A placeholder is one or two opening braces, a name and one or two closing
braces. Reading settles the number of opening braces at once and never tries a
smaller one; no placeholder is lost by that, because a name does not begin
with a brace.

Results:

* `read?_eq_some_iff`: what reading yields, up to the one choice it makes: two
  closing braces wherever two stand.
* `exists_read?_of_isPlaceholder`: wherever a text of the grammar begins,
  reading succeeds.
-/

namespace FormLetter

/-- One or two opening braces, a name, and one or two closing braces. -/
def IsPlaceholder (s : Text) : Prop :=
  ∃ m n name, (m = 1 ∨ m = 2) ∧ (n = 1 ∨ n = 2) ∧ isName name = true ∧
    s = List.replicate m '\x7b' ++ name ++ List.replicate n '\x7d'

theorem isName_iff {t : Text} : isName t = true ↔ t ≠ [] ∧ ∀ c ∈ t, isNameChar c = true := by
  simp [isName]

/-! ## Braces -/

namespace Braces

theorem exists_count_eq {m : ℕ} (h : m = 1 ∨ m = 2) : ∃ b : Braces, b.count = m := by
  rcases h with rfl | rfl
  · exact ⟨one, rfl⟩
  · exact ⟨two, rfl⟩

theorem count_eq (b : Braces) : b.count = 1 ∨ b.count = 2 := by
  cases b
  · exact Or.inl rfl
  · exact Or.inr rfl

theorem head?_ne_of_read?_one {brace : Char} {t rest : Text}
    (h : read? brace t = some (one, rest)) : rest.head? ≠ some brace := by
  match t with
  | [] => simp [read?] at h
  | [c] =>
    simp only [read?, Option.ite_none_right_eq_some, Option.some.injEq, Prod.mk.injEq] at h
    simp [← h.2.2]
  | c :: d :: t =>
    simp only [read?, Option.ite_none_right_eq_some] at h
    obtain ⟨rfl, h⟩ := h
    split_ifs at h with hd
    · simp at h
    · obtain ⟨-, rfl⟩ := Prod.mk.inj (Option.some.inj h)
      simpa using hd

/-- Braces are read back unless one of them is followed by another. -/
theorem read?_text_append {brace : Char} (b : Braces) {rest : Text}
    (h : b = one → rest.head? ≠ some brace) :
    read? brace (b.text brace ++ rest) = some (b, rest) := by
  cases b with
  | one =>
    cases rest with
    | nil => simp [text, count, read?]
    | cons d rest =>
      have hd : d ≠ brace := by simpa using h rfl
      simp [text, count, read?, hd]
  | two => simp [text, count, List.replicate, read?]

end Braces

/-! ## Placeholders -/

namespace Placeholder

theorem isName_of_read? {t rest : Text} {p : Placeholder} (h : read? t = some (p, rest)) :
    isName p.name = true := by
  unfold read? at h
  split at h
  · cases h
  · next opening inner hopen =>
    simp only at h
    split_ifs at h with hname
    split at h
    · cases h
    · obtain ⟨rfl, -⟩ := Prod.mk.inj (Option.some.inj h)
      exact isName_iff.mpr ⟨hname, List.all_eq_true.mp List.all_takeWhile⟩

/-- A second closing brace is never left behind. -/
theorem head?_ne_of_read? {t rest : Text} {p : Placeholder} (h : read? t = some (p, rest))
    (hone : p.closing = .one) : rest.head? ≠ some '\x7d' := by
  unfold read? at h
  split at h
  · cases h
  · next opening inner hopen =>
    simp only at h
    split_ifs at h
    split at h
    · cases h
    · next closing rest' hclose =>
      obtain ⟨rfl, rfl⟩ := Prod.mk.inj (Option.some.inj h)
      obtain rfl : closing = .one := hone
      exact Braces.head?_ne_of_read?_one hclose

theorem isNameChar_openingBrace : isNameChar '\x7b' = false := by decide

theorem isNameChar_closingBrace : isNameChar '\x7d' = false := by decide

theorem head?_name_ne {name : Text} (h : isName name = true) (rest : Text) :
    (name ++ rest).head? ≠ some '\x7b' := by
  obtain ⟨hne, hall⟩ := isName_iff.mp h
  cases name with
  | nil => exact absurd rfl hne
  | cons c name =>
    rintro hc
    obtain rfl : c = '\x7b' := by simpa using hc
    have := hall '\x7b' (List.mem_cons_self ..)
    rw [isNameChar_openingBrace] at this
    cases this

theorem takeWhile_dropWhile_closing (b : Braces) (rest : Text) :
    (b.text '\x7d' ++ rest).takeWhile isNameChar = [] ∧
      (b.text '\x7d' ++ rest).dropWhile isNameChar = b.text '\x7d' ++ rest := by
  cases b <;> simp [Braces.text, Braces.count, List.replicate, isNameChar_closingBrace]

/-- A placeholder that is written out is read back, unless its only closing
brace is followed by another. -/
theorem read?_text_append {p : Placeholder} {rest : Text} (hname : isName p.name = true)
    (hclose : p.closing = .one → rest.head? ≠ some '\x7d') :
    read? (p.text ++ rest) = some (p, rest) := by
  obtain ⟨opening, name, closing⟩ := p
  obtain ⟨hne, hall⟩ := isName_iff.mp hname
  obtain ⟨htake, hdrop⟩ := takeWhile_dropWhile_closing closing rest
  have hopen : Braces.read? '\x7b'
      (opening.text '\x7b' ++ (name ++ (closing.text '\x7d' ++ rest))) =
        some (opening, name ++ (closing.text '\x7d' ++ rest)) :=
    Braces.read?_text_append opening fun _ => head?_name_ne hname _
  unfold read? text
  simp only [List.append_assoc, hopen]
  rw [List.takeWhile_append_of_pos hall, List.dropWhile_append_of_pos hall, htake, hdrop,
    List.append_nil, if_neg hne, Braces.read?_text_append closing hclose]

/-- Reading yields the placeholder that stands first, with two closing braces
wherever two stand. -/
theorem read?_eq_some_iff {t rest : Text} {p : Placeholder} :
    read? t = some (p, rest) ↔
      t = p.text ++ rest ∧ isName p.name = true ∧
        (p.closing = .one → rest.head? ≠ some '\x7d') := by
  constructor
  · intro h
    exact ⟨eq_append_of_read? h, isName_of_read? h, head?_ne_of_read? h⟩
  · rintro ⟨rfl, hname, hclose⟩
    exact read?_text_append hname hclose

theorem isPlaceholder_text {p : Placeholder} (h : isName p.name = true) :
    IsPlaceholder p.text :=
  ⟨p.opening.count, p.closing.count, p.name, p.opening.count_eq, p.closing.count_eq, h, rfl⟩

theorem exists_eq_text {s : Text} (h : IsPlaceholder s) :
    ∃ p : Placeholder, isName p.name = true ∧ s = p.text := by
  obtain ⟨m, n, name, hm, hn, hname, rfl⟩ := h
  obtain ⟨opening, rfl⟩ := Braces.exists_count_eq hm
  obtain ⟨closing, rfl⟩ := Braces.exists_count_eq hn
  exact ⟨⟨opening, name, closing⟩, hname, rfl⟩

/-- Wherever a text of the grammar begins, reading finds a placeholder. It is
longer than that text only if a second closing brace follows. -/
theorem exists_read?_of_isPlaceholder {s : Text} (h : IsPlaceholder s) (rest : Text) :
    ∃ p rest', read? (s ++ rest) = some (p, rest') := by
  obtain ⟨⟨opening, name, closing⟩, hname, rfl⟩ := exists_eq_text h
  by_cases hclose : closing = .one → rest.head? ≠ some '\x7d'
  · exact ⟨_, _, read?_text_append hname hclose⟩
  · simp only [Classical.not_imp, ne_eq, Classical.not_not] at hclose
    obtain ⟨rfl, hhead⟩ := hclose
    obtain ⟨rest', rfl⟩ : ∃ rest', rest = '\x7d' :: rest' := by
      cases rest with
      | nil => cases hhead
      | cons c rest' => exact ⟨rest', by rw [Option.some.inj hhead]⟩
    have hread : read? ((⟨opening, name, .two⟩ : Placeholder).text ++ rest') =
        some (⟨opening, name, .two⟩, rest') := read?_text_append hname (by simp)
    refine ⟨⟨opening, name, .two⟩, rest', ?_⟩
    rw [← hread]
    simp [text, Braces.text, Braces.count, List.replicate]

end Placeholder

end FormLetter
