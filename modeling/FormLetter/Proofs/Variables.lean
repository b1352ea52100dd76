import FormLetter.Recipient.Record
import Mathlib.Data.Nat.Notation
import Mathlib.Tactic.Common

/-!
# The variables of a record

Setting variables one after the other keeps the names of a record and the
names of its fields in increasing order, and keeps the latter among the
former. The last value that is set for a name counts.

Results:

* `lookup_putFields`: after some fields are set, a name has the value of the
  last one with this name, or else the value it had.
* `mem_keys_putFields`, `mem_custom_putFields`: the names of the fields are added to
  both sets of names.
* `Ordered.putDerived`, `Ordered.putFields`: the order is kept.
* `Ordered.ext`: ordered records with the same values and the same names of
  fields are equal.
-/

namespace FormLetter

theorem Variables.map_fst_put (name value : Text) (entries : List (Text × Text)) :
    (put name value entries).map Prod.fst = Names.insert name (entries.map Prod.fst) := by
  induction entries with
  | nil => rfl
  | cons entry rest ih =>
    obtain ⟨n, v⟩ := entry
    rw [put, List.map_cons, Names.insert]
    split_ifs with hlt heq
    · rfl
    · rw [List.map_cons, heq]
    · rw [List.map_cons, ih]

theorem Names.nodup_of_pairwise {names : List Text} (h : names.Pairwise (· < ·)) :
    names.Nodup := by
  apply h.imp
  rintro s t hlt rfl
  exact List.lt_irrefl s hlt

/-- Lists in strictly increasing order of some key are equal if they have the
same members. -/
theorem eq_of_pairwise_of_mem_iff {α : Type} (key : α → Text) {xs ys : List α}
    (hx : (xs.map key).Pairwise (· < ·)) (hy : (ys.map key).Pairwise (· < ·))
    (h : ∀ x, x ∈ xs ↔ x ∈ ys) : xs = ys := by
  rw [List.pairwise_map] at hx hy
  have hne {a b : α} (hlt : key a < key b) : a ≠ b := by
    rintro rfl
    exact List.lt_irrefl _ hlt
  have hperm : xs.Perm ys := (List.perm_ext_iff_of_nodup (hx.imp hne) (hy.imp hne)).mpr h
  refine hperm.eq_of_pairwise ?_ hx hy
  intro a b _ _ hab hba
  exact absurd (List.lt_trans hab hba) (List.lt_irrefl _)

theorem Names.eq_of_mem_iff {names others : List Text} (h : names.Pairwise (· < ·))
    (h' : others.Pairwise (· < ·)) (hmem : ∀ name, name ∈ names ↔ name ∈ others) :
    names = others :=
  eq_of_pairwise_of_mem_iff id (by rwa [List.map_id]) (by rwa [List.map_id]) hmem

theorem Variables.lookup_eq_none_iff {α : Type} {entries : List (Text × α)} {name : Text} :
    entries.lookup name = none ↔ name ∉ entries.map Prod.fst := by
  rw [List.lookup_eq_none_iff, List.mem_map]
  constructor
  · rintro h ⟨entry, hentry, rfl⟩
    exact absurd (h entry hentry) (by simp)
  · intro h entry hentry
    exact bne_iff_ne.mpr fun he => h ⟨entry, hentry, he.symm⟩

theorem Variables.mem_of_lookup_eq_some {α : Type} {entries : List (Text × α)} {name : Text}
    {value : α} (h : entries.lookup name = some value) : (name, value) ∈ entries := by
  obtain ⟨before, after, he, -⟩ := List.lookup_eq_some_iff.mp h
  rw [he]
  exact List.mem_append_right before List.mem_cons_self

/-- Where no name occurs twice, looking up is membership. -/
theorem Variables.lookup_eq_some_iff {entries : List (Text × Text)}
    (h : (entries.map Prod.fst).Nodup) {name value : Text} :
    entries.lookup name = some value ↔ (name, value) ∈ entries := by
  induction entries with
  | nil => simp
  | cons entry rest ih =>
    obtain ⟨n, v⟩ := entry
    obtain ⟨hn, hrest⟩ := List.nodup_cons.mp h
    rw [lookup_cons, List.mem_cons, Prod.mk.injEq]
    by_cases hname : name = n
    · subst hname
      have hnotMem : (name, value) ∉ rest := fun hmem =>
        hn (List.mem_map.mpr ⟨(name, value), hmem, rfl⟩)
      simp [hnotMem, eq_comm]
    · simp [hname, ih hrest]

/-- Where no key occurs twice, at most one value stands under it. -/
theorem Variables.map_snd_filter {α β : Type} [BEq α] [LawfulBEq α] {entries : List (α × β)}
    (h : (entries.map Prod.fst).Nodup) (key : α) :
    (entries.filter fun entry => entry.1 == key).map Prod.snd = (entries.lookup key).toList := by
  induction entries with
  | nil => rfl
  | cons entry rest ih =>
    obtain ⟨k, v⟩ := entry
    obtain ⟨hk, hrest⟩ := List.nodup_cons.mp h
    rw [List.filter_cons, List.lookup_cons]
    by_cases hkey : k = key
    · subst hkey
      have hnone : rest.filter (fun entry => entry.1 == k) = [] :=
        List.filter_eq_nil_iff.mpr fun entry hentry heq =>
          hk (List.mem_map.mpr ⟨entry, hentry, eq_of_beq heq⟩)
      simp [hnone]
    · have hbeq : (key == k) = false := beq_false_of_ne (Ne.symm hkey)
      simp [hkey, hbeq, ih hrest]

/-- Leaving entries out does not matter to the names that are left in. -/
theorem Variables.lookup_filter {α : Type} {p : Text → Bool} {name : Text} (h : p name = true)
    (entries : List (Text × α)) :
    (entries.filter fun entry => p entry.1).lookup name = entries.lookup name := by
  induction entries with
  | nil => rfl
  | cons entry rest ih =>
    obtain ⟨n, v⟩ := entry
    rw [List.filter_cons]
    split_ifs with hn
    · rw [lookup_cons, lookup_cons, ih]
    · have hne : name ≠ n := by
        rintro rfl
        exact hn h
      rw [lookup_cons, if_neg hne, ih]

namespace Record

/-- The names of the variables. -/
def keys (record : Record) : List Text := record.entries.map Prod.fst

@[simp] theorem keys_putDerived (record : Record) (name value : Text) :
    (record.putDerived name value).keys = Names.insert name record.keys :=
  Variables.map_fst_put name value record.entries

@[simp] theorem keys_putCustom (record : Record) (name value : Text) :
    (record.putCustom name value).keys = Names.insert name record.keys :=
  Variables.map_fst_put name value record.entries

theorem lookup_eq_none_iff {record : Record} {name : Text} :
    record.entries.lookup name = none ↔ name ∉ record.keys :=
  Variables.lookup_eq_none_iff

/-! ## Order -/

/-- The names of a record are in increasing order, those of its fields too,
and the latter are among the former. -/
structure Ordered (record : Record) : Prop where
  keys : record.keys.Pairwise (· < ·)
  custom : record.custom.Pairwise (· < ·)
  subset : ∀ name ∈ record.custom, name ∈ record.keys

theorem Ordered.putDerived {record : Record} (h : record.Ordered) (name value : Text) :
    (record.putDerived name value).Ordered where
  keys := by
    rw [keys_putDerived]
    exact Names.pairwise_insert h.keys
  custom := h.custom
  subset n hn := by
    rw [keys_putDerived, Names.mem_insert]
    exact Or.inr (h.subset n hn)

theorem Ordered.putCustom {record : Record} (h : record.Ordered) (name value : Text) :
    (record.putCustom name value).Ordered where
  keys := by
    rw [keys_putCustom]
    exact Names.pairwise_insert h.keys
  custom := Names.pairwise_insert h.custom
  subset n hn := by
    rw [keys_putCustom, Names.mem_insert]
    exact (Names.mem_insert.mp hn).imp id (h.subset n)

theorem Ordered.putFields {record : Record} (h : record.Ordered) (fields : List (Text × Text)) :
    (record.putFields fields).Ordered := by
  unfold Record.putFields
  induction fields generalizing record with
  | nil => exact h
  | cons field fields ih => exact ih (h.putCustom field.1 field.2)

theorem Ordered.lookup_eq_some_iff {record : Record} (h : record.Ordered) {name value : Text} :
    record.entries.lookup name = some value ↔ (name, value) ∈ record.entries :=
  Variables.lookup_eq_some_iff (Names.nodup_of_pairwise h.keys)

theorem Ordered.entries_eq {record other : Record} (h : record.Ordered) (h' : other.Ordered)
    (hlookup : ∀ name, record.entries.lookup name = other.entries.lookup name) :
    record.entries = other.entries := by
  refine eq_of_pairwise_of_mem_iff Prod.fst h.keys h'.keys ?_
  rintro ⟨name, value⟩
  rw [← h.lookup_eq_some_iff, ← h'.lookup_eq_some_iff, hlookup]

theorem Ordered.ext {record other : Record} (h : record.Ordered) (h' : other.Ordered)
    (hlookup : ∀ name, record.entries.lookup name = other.entries.lookup name)
    (hcustom : ∀ name, name ∈ record.custom ↔ name ∈ other.custom)
    (hmalformed : record.malformed = other.malformed) : record = other := by
  have hentries := h.entries_eq h' hlookup
  have hnames := Names.eq_of_mem_iff h.custom h'.custom hcustom
  cases record
  cases other
  simp_all

/-! ## Fields set one after the other -/

theorem putFields_cons (record : Record) (field : Text × Text) (fields : List (Text × Text)) :
    record.putFields (field :: fields) = (record.putCustom field.1 field.2).putFields fields :=
  rfl

theorem lookup_putFields (record : Record) (fields : List (Text × Text)) (name : Text) :
    (record.putFields fields).entries.lookup name =
      (fields.reverse.lookup name).or (record.entries.lookup name) := by
  induction fields generalizing record with
  | nil => rfl
  | cons field fields ih =>
    rw [putFields_cons, ih, List.reverse_cons, List.lookup_append, Option.or_assoc, putCustom,
      Variables.lookup_put, Variables.lookup_cons]
    split_ifs <;> rfl

theorem mem_keys_putFields {record : Record} {fields : List (Text × Text)} {name : Text} :
    name ∈ (record.putFields fields).keys ↔
      name ∈ fields.map Prod.fst ∨ name ∈ record.keys := by
  induction fields generalizing record with
  | nil => simp [putFields]
  | cons field fields ih =>
    rw [putFields_cons, ih, keys_putCustom, Names.mem_insert, List.map_cons, List.mem_cons,
      or_left_comm, or_assoc]

theorem mem_custom_putFields {record : Record} {fields : List (Text × Text)} {name : Text} :
    name ∈ (record.putFields fields).custom ↔
      name ∈ fields.map Prod.fst ∨ name ∈ record.custom := by
  induction fields generalizing record with
  | nil => simp [putFields]
  | cons field fields ih =>
    rw [putFields_cons, ih, putCustom, Names.mem_insert, List.map_cons, List.mem_cons,
      or_left_comm, or_assoc]

end Record

end FormLetter
