import FormLetter.Json.Read
import FormLetter.Proofs.JsonLexemes

/-!
# Written values of JSON

Specification: `Fits` says which values the writer and the reader treat alike: fractions aside,
those whose integers fit into 64 bits and which are nested no deeper than allowed.

* `valueAt?_print`: reading takes a written value and leaves what follows.
* `read?_print`: a written value with blanks around it is read as that value.
-/

namespace FormLetter.Json

open Text

/-- Induction over values: lists by their items, objects by the values of their
members. -/
@[elab_as_elim]
theorem induction {P : Json → Prop} (null : P .null) (bool : ∀ b, P (.bool b))
    (integer : ∀ n, P (.integer n)) (float : ∀ x, P (.float x)) (text : ∀ t, P (.text t))
    (list : ∀ items, (∀ item ∈ items, P item) → P (.list items))
    (object : ∀ members, (∀ m ∈ members, P m.2) → P (.object members)) (v : Json) : P v :=
  @Json.rec P (fun items => ∀ item ∈ items, P item) (fun members => ∀ m ∈ members, P m.2)
    (fun m => P m.2) null bool integer float text list object (by simp)
    (fun _ _ hitem hitems => List.forall_mem_cons.mpr ⟨hitem, hitems⟩) (by simp)
    (fun _ _ hmember hmembers => List.forall_mem_cons.mpr ⟨hmember, hmembers⟩)
    (fun _ _ hvalue => hvalue) v

/-! ## Specification -/

mutual

/-- The value has no fraction, its integers fit into 64 bits, and its lists and
objects are nested `depth` deep at most. -/
def Fits (depth : ℕ) : Json → Prop
  | null => True
  | bool _ => True
  | integer n => -(2 ^ 63) ≤ n ∧ n < 2 ^ 64
  | float _ => False
  | text _ => True
  | list items => 0 < depth ∧ ItemsFit (depth - 1) items
  | object members => 0 < depth ∧ MembersFit (depth - 1) members

/-- Every item fits. -/
def ItemsFit (depth : ℕ) : List Json → Prop
  | [] => True
  | item :: items => item.Fits depth ∧ ItemsFit depth items

/-- The value of every member fits. -/
def MembersFit (depth : ℕ) : List (Text × Json) → Prop
  | [] => True
  | (_, value) :: members => value.Fits depth ∧ MembersFit depth members

end

/-! ## Written parts -/

theorem utf8_cons_ascii {c : Char} (h : c.toNat < 128) (t : Text) :
    utf8 (c :: t) = UInt8.ofNat c.toNat :: utf8 t :=
  congrArg (· ++ utf8 t) (utf8EncodeChar_ascii h)

theorem utf8_nil : utf8 [] = [] := rfl

theorem utf8_stringText (t : Text) (rest : List UInt8) :
    utf8 (stringText t) ++ rest = 0x22 :: (utf8 (t.flatMap stringChar) ++ 0x22 :: rest) := by
  simp [stringText, utf8_append, utf8_cons_ascii, utf8_nil]

theorem utf8_print_list (item : Json) (items : List Json) (rest : List UInt8) :
    utf8 (print (list (item :: items))) ++ rest =
      0x5B :: (utf8 (print item) ++ (utf8 (printItems items) ++ 0x5D :: rest)) := by
  simp [print, utf8_append, utf8_cons_ascii, utf8_nil]

theorem utf8_print_object (name : Text) (value : Json) (members : List (Text × Json))
    (rest : List UInt8) :
    utf8 (print (object ((name, value) :: members))) ++ rest =
      0x7B :: (utf8 (stringText name) ++ 0x3A :: (utf8 (print value) ++
        (utf8 (printMembers members) ++ 0x7D :: rest))) := by
  simp [print, utf8_append, utf8_cons_ascii, utf8_nil]

theorem utf8_printItems (item : Json) (items : List Json) (rest : List UInt8) :
    utf8 (printItems (item :: items)) ++ rest =
      0x2C :: (utf8 (print item) ++ (utf8 (printItems items) ++ rest)) := by
  simp [printItems, utf8_append, utf8_cons_ascii]

theorem utf8_printMembers (name : Text) (value : Json) (members : List (Text × Json))
    (rest : List UInt8) :
    utf8 (printMembers ((name, value) :: members)) ++ rest =
      0x2C :: (utf8 (stringText name) ++ 0x3A :: (utf8 (print value) ++
        (utf8 (printMembers members) ++ rest))) := by
  simp [printMembers, utf8_append, utf8_cons_ascii]

/-- How a value may begin: neither with a blank nor with a closing bracket or
brace. -/
def StartsValue (bytes : List UInt8) : Prop :=
  ∃ b rest, bytes = b :: rest ∧ isBlankByte b = false ∧ b ≠ 0x5D ∧ b ≠ 0x7D

theorem StartsNumeral.toNat_eq {b : UInt8} (h : StartsNumeral b) :
    b.toNat = 45 ∨ 48 ≤ b.toNat ∧ b.toNat ≤ 57 := by
  rcases h with rfl | h
  · exact .inl rfl
  · rw [isDigitByte, Bool.and_eq_true, decide_eq_true_eq, decide_eq_true_eq] at h
    exact .inr ⟨UInt8.le_iff_toNat_le.mp h.1, UInt8.le_iff_toNat_le.mp h.2⟩

theorem StartsNumeral.isBlankByte_eq {b : UInt8} (h : StartsNumeral b) : isBlankByte b = false := by
  have := h.toNat_eq
  simp only [isBlankByte, Bool.or_eq_false_iff, beq_eq_false_iff_ne, ne_eq, ← UInt8.toNat_inj,
    UInt8.reduceToNat]
  omega

theorem startsValue_print {v : Json} {depth : ℕ} (h : v.Fits depth) (rest : List UInt8) :
    StartsValue (utf8 (print v) ++ rest) := by
  cases v with
  | null => exact ⟨0x6E, _, rfl, by decide⟩
  | bool b => cases b <;> exact ⟨_, _, rfl, by decide⟩
  | integer n =>
    obtain ⟨b, bytes, hbytes, hstart⟩ := exists_utf8_ofInt n
    have := hstart.toNat_eq
    refine ⟨b, _, congrArg (· ++ rest) hbytes, hstart.isBlankByte_eq, ?_⟩
    simp only [ne_eq, ← UInt8.toNat_inj, UInt8.reduceToNat]
    omega
  | float x => cases h
  | text t => exact ⟨_, _, utf8_stringText t rest, by decide⟩
  | list items =>
    cases items with
    | nil => exact ⟨0x5B, _, rfl, by decide⟩
    | cons item items => exact ⟨_, _, utf8_print_list item items rest, by decide⟩
  | object members =>
    cases members with
    | nil => exact ⟨0x7B, _, rfl, by decide⟩
    | cons member members => exact ⟨_, _, utf8_print_object _ _ members rest, by decide⟩

theorem EndsNumeral.of_structure {b : UInt8} (h : b = 0x2C ∨ b = 0x5D ∨ b = 0x7D)
    (rest : List UInt8) : EndsNumeral (b :: rest) := by
  rintro c ⟨⟩
  rcases h with rfl | rfl | rfl <;> decide

/-! ## Values -/

theorem valueAt?_ofInt {n : ℤ} (h : -(2 ^ 63) ≤ n ∧ n < 2 ^ 64) (depth fuel : ℕ)
    {rest : List UInt8} (hrest : EndsNumeral rest) :
    valueAt? depth (fuel + 1) (utf8 (ofInt n) ++ rest) = some (.integer n, rest) := by
  have hnumeral := numeral?_ofInt n hrest
  obtain ⟨b, bytes, hbytes, hstart⟩ := exists_utf8_ofInt n
  rw [hbytes, List.cons_append] at hnumeral ⊢
  rw [valueAt?, skipBlanks_cons hstart.isBlankByte_eq]
  split
  case h_7 => simp [hnumeral, value?_partsOf h.1 h.2]
  all_goals
    rename_i heq
    rw [(List.cons.inj heq).1] at hstart
    simp [StartsNumeral, isDigitByte] at hstart

theorem endsNumeral_printItems (items : List Json) (rest : List UInt8) :
    EndsNumeral (utf8 (printItems items) ++ 0x5D :: rest) := by
  cases items with
  | nil => exact .of_structure (.inr (.inl rfl)) rest
  | cons item items =>
    rw [utf8_printItems]
    exact .of_structure (.inl rfl) _

theorem endsNumeral_printMembers (members : List (Text × Json)) (rest : List UInt8) :
    EndsNumeral (utf8 (printMembers members) ++ 0x7D :: rest) := by
  cases members with
  | nil => exact .of_structure (.inr (.inr rfl)) rest
  | cons member members =>
    rw [utf8_printMembers]
    exact .of_structure (.inl rfl) _

theorem colon?_cons (rest : List UInt8) : colon? (0x3A :: rest) = some rest := rfl

/-- There is a round for a value if there is one for every character. -/
theorem exists_succ_of_length_print_le {v : Json} {depth fuel : ℕ} (h : v.Fits depth)
    (hfuel : (print v).length ≤ fuel) : ∃ n, fuel = n + 1 := by
  obtain ⟨b, bytes, hbytes, -⟩ := startsValue_print h []
  cases hprint : print v with
  | nil =>
    rw [hprint] at hbytes
    cases hbytes
  | cons c t =>
    rw [hprint, List.length_cons] at hfuel
    exact ⟨fuel - 1, by omega⟩

/-- Reading takes the value from in front of what follows it. Every round of
the reader takes a character at least. -/
def IsReadBack (v : Json) : Prop :=
  ∀ {depth fuel : ℕ} {rest : List UInt8}, v.Fits depth → (print v).length ≤ fuel →
    EndsNumeral rest → valueAt? depth fuel (utf8 (print v) ++ rest) = some (v, rest)

/-- The items of a written list are read up to its closing bracket. -/
theorem itemsAt?_print {item : Json} {items : List Json} {depth fuel : ℕ}
    (hread : ∀ v ∈ item :: items, IsReadBack v) (hfit : ∀ v ∈ item :: items, v.Fits depth)
    (hfuel : (print item).length + (printItems items).length < fuel) (rest : List UInt8) :
    itemsAt? depth fuel (utf8 (print item) ++ (utf8 (printItems items) ++ 0x5D :: rest)) =
      some (item :: items, rest) := by
  obtain ⟨fuel, rfl⟩ : ∃ n, fuel = n + 1 := ⟨fuel - 1, by omega⟩
  induction items generalizing item fuel with
  | nil =>
    rw [itemsAt?, hread item (by simp) (hfit item (by simp)) (by omega)
      (endsNumeral_printItems _ _)]
    simp [printItems, utf8_nil, skipBlanks_cons, isBlankByte]
  | cons next items ih =>
    rw [List.forall_mem_cons] at hread hfit
    simp only [printItems, List.cons_append, List.length_cons, List.length_append] at hfuel
    obtain ⟨fuel, rfl⟩ : ∃ n, fuel = n + 1 := ⟨fuel - 1, by omega⟩
    have hrest := ih hread.2 hfit.2 fuel (by omega)
    rw [itemsAt?, hread.1 hfit.1 (by omega) (endsNumeral_printItems _ _), utf8_printItems]
    simp [skipBlanks_cons, isBlankByte, hrest]

/-- The members of a written object are read up to its closing brace. -/
theorem membersAt?_print {name : Text} {value : Json} {members : List (Text × Json)}
    {depth fuel : ℕ} (hread : ∀ m ∈ (name, value) :: members, IsReadBack m.2)
    (hfit : ∀ m ∈ (name, value) :: members, m.2.Fits depth)
    (hfuel : (print value).length + (printMembers members).length < fuel) (rest : List UInt8) :
    membersAt? depth fuel (utf8 (stringText name) ++ 0x3A :: (utf8 (print value) ++
      (utf8 (printMembers members) ++ 0x7D :: rest))) = some ((name, value) :: members, rest) := by
  obtain ⟨fuel, rfl⟩ : ∃ n, fuel = n + 1 := ⟨fuel - 1, by omega⟩
  induction members generalizing name value fuel with
  | nil =>
    have hvalue : IsReadBack value := hread (name, value) (by simp)
    have hfits : value.Fits depth := hfit (name, value) (by simp)
    rw [membersAt?, utf8_stringText, skipBlanks_cons (by decide)]
    simp only [string?_stringText, colon?_cons, Option.bind_eq_bind, Option.bind_some]
    rw [hvalue hfits (by omega) (endsNumeral_printMembers [] rest)]
    simp [printMembers, utf8_nil, skipBlanks_cons, isBlankByte]
  | cons next members ih =>
    rw [List.forall_mem_cons] at hread hfit
    simp only [printMembers, List.cons_append, List.length_cons, List.length_append] at hfuel
    obtain ⟨fuel, rfl⟩ : ∃ n, fuel = n + 1 := ⟨fuel - 1, by omega⟩
    have hvalue : IsReadBack value := hread.1
    have hrest := ih hread.2 hfit.2 fuel (by omega)
    rw [membersAt?, utf8_stringText, skipBlanks_cons (by decide)]
    simp only [string?_stringText, colon?_cons, Option.bind_eq_bind, Option.bind_some]
    rw [hvalue hfit.1 (by omega) (endsNumeral_printMembers (next :: members) rest),
      utf8_printMembers]
    simp [skipBlanks_cons, isBlankByte, hrest]

theorem itemsFit_iff {depth : ℕ} {items : List Json} :
    ItemsFit depth items ↔ ∀ v ∈ items, v.Fits depth := by
  induction items with
  | nil => simp [ItemsFit]
  | cons item items ih => simp [ItemsFit, ih]

theorem membersFit_iff {depth : ℕ} {members : List (Text × Json)} :
    MembersFit depth members ↔ ∀ m ∈ members, m.2.Fits depth := by
  induction members with
  | nil => simp [MembersFit]
  | cons member members ih => simp [MembersFit, ih]

theorem isReadBack_list {items : List Json} (hread : ∀ v ∈ items, IsReadBack v) :
    IsReadBack (list items) := by
  intro depth fuel rest h hfuel hrest
  obtain ⟨fuel, rfl⟩ := exists_succ_of_length_print_le h hfuel
  obtain ⟨hdepth, hitems⟩ := h
  rw [itemsFit_iff] at hitems
  cases items with
  | nil =>
    change valueAt? depth (fuel + 1) (0x5B :: 0x5D :: rest) = _
    rw [valueAt?, skipBlanks_cons (by decide)]
    simp [skipBlanks_cons, isBlankByte, Nat.ne_of_gt hdepth]
  | cons item items =>
    have hlength : (print item).length + (printItems items).length < fuel := by
      simp [print] at hfuel
      omega
    have hlist := itemsAt?_print hread hitems hlength rest
    obtain ⟨b, bytes, hbytes, hblank, hbracket, -⟩ :=
      startsValue_print (hitems item (by simp)) (utf8 (printItems items) ++ 0x5D :: rest)
    rw [hbytes] at hlist
    rw [utf8_print_list, hbytes, valueAt?, skipBlanks_cons (by decide)]
    simp only [if_neg (Nat.ne_of_gt hdepth), skipBlanks_cons hblank]
    simp [hbracket, hlist]

theorem isReadBack_object {members : List (Text × Json)} (hread : ∀ m ∈ members, IsReadBack m.2) :
    IsReadBack (object members) := by
  intro depth fuel rest h hfuel hrest
  obtain ⟨fuel, rfl⟩ := exists_succ_of_length_print_le h hfuel
  obtain ⟨hdepth, hmembers⟩ := h
  rw [membersFit_iff] at hmembers
  cases members with
  | nil =>
    change valueAt? depth (fuel + 1) (0x7B :: 0x7D :: rest) = _
    rw [valueAt?, skipBlanks_cons (by decide)]
    simp [skipBlanks_cons, isBlankByte, Nat.ne_of_gt hdepth]
  | cons m members =>
    obtain ⟨name, value⟩ := m
    have hlength : (print value).length + (printMembers members).length < fuel := by
      simp [print] at hfuel
      omega
    have hobject := membersAt?_print hread hmembers hlength rest
    rw [utf8_stringText] at hobject
    rw [utf8_print_object, utf8_stringText, valueAt?, skipBlanks_cons (by decide)]
    simp only [if_neg (Nat.ne_of_gt hdepth), skipBlanks_cons (b := 0x22) (by decide)]
    simp [hobject]

/-- A written value is read, and what follows it is left. -/
theorem valueAt?_print (v : Json) : IsReadBack v := by
  induction v using induction with
  | null =>
    intro depth fuel rest h hfuel hrest
    obtain ⟨fuel, rfl⟩ := exists_succ_of_length_print_le h hfuel
    change valueAt? depth (fuel + 1) (0x6E :: (utf8 "ull".toList ++ rest)) = _
    rw [valueAt?, skipBlanks_cons (by decide)]
    simp only [word?_append, Option.map_some]
  | bool b =>
    intro depth fuel rest h hfuel hrest
    obtain ⟨fuel, rfl⟩ := exists_succ_of_length_print_le h hfuel
    cases b with
    | false =>
      change valueAt? depth (fuel + 1) (0x66 :: (utf8 "alse".toList ++ rest)) = _
      rw [valueAt?, skipBlanks_cons (by decide)]
      simp only [word?_append, Option.map_some]
    | true =>
      change valueAt? depth (fuel + 1) (0x74 :: (utf8 "rue".toList ++ rest)) = _
      rw [valueAt?, skipBlanks_cons (by decide)]
      simp only [word?_append, Option.map_some]
  | integer n =>
    intro depth fuel rest h hfuel hrest
    obtain ⟨fuel, rfl⟩ := exists_succ_of_length_print_le h hfuel
    exact valueAt?_ofInt h depth fuel hrest
  | float x => exact fun h => h.elim
  | text t =>
    intro depth fuel rest h hfuel hrest
    obtain ⟨fuel, rfl⟩ := exists_succ_of_length_print_le h hfuel
    rw [print, utf8_stringText, valueAt?, skipBlanks_cons (by decide)]
    simp only [string?_stringText, Option.map_some]
  | list items ih => exact isReadBack_list ih
  | object members ih => exact isReadBack_object ih

theorem valueAt?_blanks {blanks : List UInt8} (h : ∀ b ∈ blanks, isBlankByte b = true)
    (depth fuel : ℕ) (bytes : List UInt8) :
    valueAt? depth fuel (blanks ++ bytes) = valueAt? depth fuel bytes := by
  cases fuel with
  | zero => simp only [valueAt?]
  | succ fuel => simp only [valueAt?, skipBlanks_append h]

theorem EndsNumeral.of_blanks {blanks : List UInt8} (h : ∀ b ∈ blanks, isBlankByte b = true) :
    EndsNumeral blanks := by
  intro b hb
  have hblank := h b (List.mem_of_mem_head? hb)
  simp only [isBlankByte, Bool.or_eq_true, beq_iff_eq] at hblank
  rcases hblank with ((rfl | rfl) | rfl) | rfl <;> decide

theorem skipBlanks_of_blanks {blanks : List UInt8} (h : ∀ b ∈ blanks, isBlankByte b = true) :
    skipBlanks blanks = [] :=
  List.dropWhile_eq_nil_iff.mpr h

theorem length_le_length_utf8 (t : Text) : t.length ≤ (utf8 t).length := by
  induction t with
  | nil => simp
  | cons c t ih =>
    have := length_lt_length_utf8EncodeChar_append c (utf8 t)
    change t.length + 1 ≤ (String.utf8EncodeChar c ++ utf8 t).length
    omega

/-- **Reading a written value.** With blanks around it, it is read as itself. -/
theorem read?_print {v : Json} (h : v.Fits maxDepth) {before after : List UInt8}
    (hbefore : ∀ b ∈ before, isBlankByte b = true) (hafter : ∀ b ∈ after, isBlankByte b = true) :
    read? (before ++ (utf8 (print v) ++ after)) = some v := by
  have hlength := length_le_length_utf8 (print v)
  rw [read?, valueAt?_blanks hbefore, valueAt?_print v h _ (EndsNumeral.of_blanks hafter)]
  · simp [skipBlanks_of_blanks hafter]
  · simp only [List.length_append]
    omega

end FormLetter.Json
