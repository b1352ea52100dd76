import FormLetter.Text.Basic

/-!
# Sets of names

A set of names is a list in strictly increasing order. Texts are ordered by their characters,
which is the order of their UTF-8 bytes.

Results:

* `mem_insert`, `pairwise_insert`: inserting adds one name and keeps the order.
* `mem_ofList`, `pairwise_ofList`: every list of names makes a set with the same members.
* `mem_union`, `pairwise_union`: a union has the members of both sets and is in order.
-/

namespace FormLetter.Names

/-- Adds a name to a set. -/
def insert (name : Text) : List Text → List Text
  | [] => [name]
  | n :: rest =>
    if name < n then name :: n :: rest
    else if name = n then n :: rest
    else n :: insert name rest

/-- The set of the names in a list. -/
def ofList (names : List Text) : List Text := names.foldr insert []

/-- The names that are in one of two sets. -/
def union (names others : List Text) : List Text := names.foldr insert others

theorem mem_insert {x name : Text} {names : List Text} :
    x ∈ insert name names ↔ x = name ∨ x ∈ names := by
  induction names with
  | nil => simp [insert]
  | cons n rest ih =>
    rw [insert]
    split
    · simp
    · split
      · next h => simp [h]
      · simp [ih, or_left_comm]

theorem lt_of_not_lt_of_ne {s t : Text} (h : ¬s < t) (hne : s ≠ t) : t < s := by
  rcases List.le_total s t with hle | hle
  · exact absurd (List.le_antisymm hle (List.not_lt.mp h)) hne
  · exact Classical.byContradiction fun hlt => hne (List.le_antisymm (List.not_lt.mp hlt) hle)

theorem pairwise_insert {name : Text} {names : List Text} (h : names.Pairwise (· < ·)) :
    (insert name names).Pairwise (· < ·) := by
  induction names with
  | nil => simp [insert]
  | cons n rest ih =>
    rw [List.pairwise_cons] at h
    rw [insert]
    split
    · next hlt =>
      refine List.pairwise_cons.mpr ⟨?_, List.pairwise_cons.mpr h⟩
      intro x hx
      rcases List.mem_cons.mp hx with rfl | hx
      · exact hlt
      · exact List.lt_trans hlt (h.1 x hx)
    · next hnlt =>
      split
      · exact List.pairwise_cons.mpr h
      · next hne =>
        refine List.pairwise_cons.mpr ⟨?_, ih h.2⟩
        intro x hx
        rcases mem_insert.mp hx with rfl | hx
        · exact lt_of_not_lt_of_ne hnlt hne
        · exact h.1 x hx

theorem mem_ofList {x : Text} {names : List Text} : x ∈ ofList names ↔ x ∈ names := by
  induction names with
  | nil => simp [ofList]
  | cons n rest ih =>
    rw [List.mem_cons, ← ih]
    exact mem_insert

theorem pairwise_ofList (names : List Text) : (ofList names).Pairwise (· < ·) := by
  induction names with
  | nil => simp [ofList]
  | cons n rest ih => exact pairwise_insert ih

theorem mem_union {x : Text} {names others : List Text} :
    x ∈ union names others ↔ x ∈ names ∨ x ∈ others := by
  induction names with
  | nil => simp [union]
  | cons n rest ih =>
    rw [List.mem_cons, or_assoc, ← ih]
    exact mem_insert

theorem pairwise_union {names others : List Text} (h : others.Pairwise (· < ·)) :
    (union names others).Pairwise (· < ·) := by
  induction names with
  | nil => exact h
  | cons n rest ih => exact pairwise_insert ih

end FormLetter.Names
