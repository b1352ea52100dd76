import FormLetter.Proofs.AddressValues
import FormLetter.Proofs.TitleCase
import Mathlib

/-!
# Title case of ASCII

On text of ASCII, title case changes letters alone and one character at a time:
a letter is a capital where a word begins and a small letter elsewhere. The flag
that is passed along says whether the character before is a letter, which has
nothing to do with its case. So title case does not see the case of the letters,
and nor do the names that are made from an address.

Specification: `Text.BeginsWord` says where a word begins, and `Text.IsTitleCase`
what title case makes of a text.

Results:

* `isTitleCase_titleCase`: title case of ASCII is what it has to be.
* `titleCase_asciiLower`: it does not see the case of the letters.
* `titleCase_titleCase`: it changes nothing a second time.
* `firstName_asciiLower`, `lastName_asciiLower`, `company_asciiLower`: nor do
  the names in an address.
* `names_ignore_letter_case`: all of it together.
-/

namespace FormLetter

/-! ## Specification -/

namespace Text

/-- All characters are of ASCII. -/
def IsAscii (t : Text) : Prop := ∀ c ∈ t, c.toNat < 128

instance (t : Text) : Decidable (IsAscii t) :=
  decidable_of_iff (t.all (·.toNat < 128)) (by simp [IsAscii])

/-- A letter at this place would be the first of a word: it is the first
character of the text, or the character before it is no letter. -/
def BeginsWord (t : Text) (i : ℕ) : Prop :=
  i = 0 ∨ ∃ j, ∃ c : Char, i = j + 1 ∧ t[j]? = some c ∧ c.isAlpha = false

/-- What title case makes of a text of ASCII. -/
structure IsTitleCase (t image : Text) : Prop where
  length_eq : image.length = t.length
  /-- What is no letter stays. -/
  other : ∀ (i : ℕ) (c : Char), t[i]? = some c → c.isAlpha = false → image[i]? = some c
  /-- A letter becomes a capital exactly where a word begins. -/
  capital_iff : ∀ (i : ℕ) (c : Char), t[i]? = some c → c.isAlpha = true →
    (image[i]? = some c.toUpper ↔ BeginsWord t i)
  /-- All other letters become small. -/
  small : ∀ (i : ℕ) (c : Char), t[i]? = some c → c.isAlpha = true → ¬BeginsWord t i →
    image[i]? = some c.toLower

end Text

/-- The variables that are names made from the address. -/
def Builtin.ofNames : List Builtin := [.firstname, .lastname, .company]

/-! ## Letters -/

namespace Text

theorem hasCase_ascii {c : Char} (h : c.toNat < 128) : hasCase c = c.isAlpha := if_pos h

theorem toUpper_eq_self {c : Char} (h : c.isAlpha = false) : c.toUpper = c := by
  rw [Char.isAlpha, Bool.or_eq_false_iff] at h
  exact Char.toUpper_eq_of_not_isLower (by simp [h.2])

theorem toLower_eq_self_of_not_alpha {c : Char} (h : c.isAlpha = false) : c.toLower = c := by
  rw [Char.isAlpha, Bool.or_eq_false_iff] at h
  exact Char.toLower_eq_of_not_isUpper (by simp [h.1])

theorem toUpper_ne_toLower {c : Char} (h : c.isAlpha = true) : c.toUpper ≠ c.toLower := by
  intro he
  have hupper := congrArg Char.isUpper he
  rw [Char.isUpper_toUpper_eq_isAlpha, Char.isUpper_toLower_eq_false, h] at hupper
  cases hupper

/-- The case mappings and the letters do not see the case of ASCII letters. -/
theorem title_toLower (c : Char) :
    upperChar c.toLower = upperChar c ∧ lowerChar c.toLower = lowerChar c ∧
      hasCase c.toLower = hasCase c := by
  by_cases hself : c.toLower = c
  · rw [hself]
    exact ⟨rfl, rfl, rfl⟩
  · have hc := toNat_lt_of_toLower_ne hself
    have hlower : c.toLower.toNat < 128 := by
      have := toNat_toLower c
      split_ifs at this <;> omega
    rw [upperChar_ascii hc, upperChar_ascii hlower, hasCase_ascii hc, hasCase_ascii hlower,
      Char.toUpper_toLower_eq_toUpper, Char.isAlpha_toLower_eq_isAlpha]
    exact ⟨rfl, (case_toLower c).1, rfl⟩

end Text

/-! ## Title case -/

namespace Text

theorem titleAfter_asciiLower (inWord : Bool) (t : Text) :
    titleAfter inWord (asciiLower t) = titleAfter inWord t := by
  induction t generalizing inWord with
  | nil => rfl
  | cons c t ih =>
    obtain ⟨hupper, hlower, hcase⟩ := title_toLower c
    rw [asciiLower_cons, titleAfter, titleAfter, ih, hupper, hlower, hcase]

/-- Title case does not see the case of the letters of ASCII. -/
theorem titleCase_asciiLower (t : Text) : titleCase (asciiLower t) = titleCase t :=
  titleAfter_asciiLower false t

theorem titleCase_congr {s t : Text} (h : s.asciiLower = t.asciiLower) :
    titleCase s = titleCase t := by
  rw [← titleCase_asciiLower s, h, titleCase_asciiLower]

theorem titleAfter_cons_ascii {c : Char} (h : c.toNat < 128) (inWord : Bool) (t : Text) :
    titleAfter inWord (c :: t) =
      (if inWord then c.toLower else c.toUpper) :: titleAfter c.isAlpha t := by
  rw [titleAfter, lowerChar_ascii h, upperChar_ascii h, hasCase_ascii h]
  cases inWord <;> rfl

/-- Title case of ASCII changes nothing but the case of letters. -/
theorem asciiLower_titleAfter {t : Text} (h : IsAscii t) (inWord : Bool) :
    asciiLower (titleAfter inWord t) = asciiLower t := by
  induction t generalizing inWord with
  | nil => rfl
  | cons c t ih =>
    obtain ⟨hc, ht⟩ := List.forall_mem_cons.mp h
    rw [titleAfter_cons_ascii hc, asciiLower_cons, asciiLower_cons, ih ht]
    cases inWord with
    | false => exact congrArg (· :: _) (Char.toLower_toUpper_eq_toLower c)
    | true => exact congrArg (· :: _) (toLower_toLower c)

theorem titleCase_titleCase {t : Text} (h : IsAscii t) : titleCase (titleCase t) = titleCase t :=
  titleCase_congr (asciiLower_titleAfter h false)

/-- Whether the character before a place is a letter. At the first place
`inWord` says so. -/
def letterBefore (inWord : Bool) (t : Text) : ℕ → Bool
  | 0 => inWord
  | i + 1 => t[i]?.any Char.isAlpha

theorem getElem?_titleAfter {t : Text} (h : IsAscii t) (inWord : Bool) (i : ℕ) :
    (titleAfter inWord t)[i]? =
      t[i]?.map fun c => if letterBefore inWord t i then c.toLower else c.toUpper := by
  induction t generalizing inWord i with
  | nil => rfl
  | cons c t ih =>
    obtain ⟨hc, ht⟩ := List.forall_mem_cons.mp h
    rw [titleAfter_cons_ascii hc]
    cases i with
    | zero => rfl
    | succ i =>
      rw [List.getElem?_cons_succ, List.getElem?_cons_succ, ih ht]
      cases i <;> rfl

theorem length_titleAfter {t : Text} (h : IsAscii t) (inWord : Bool) :
    (titleAfter inWord t).length = t.length := by
  have hlength := congrArg List.length (asciiLower_titleAfter h inWord)
  unfold asciiLower at hlength
  rwa [List.length_map, List.length_map] at hlength

theorem beginsWord_iff {t : Text} {i : ℕ} {c : Char} (h : t[i]? = some c) :
    BeginsWord t i ↔ letterBefore false t i = false := by
  cases i with
  | zero => exact iff_of_true (Or.inl rfl) rfl
  | succ j =>
    obtain ⟨d, hd⟩ : ∃ d, t[j]? = some d := by
      have hlength := (List.getElem?_eq_some_iff.mp h).1
      exact ⟨_, List.getElem?_eq_getElem (Nat.lt_of_succ_lt hlength)⟩
    simp [BeginsWord, letterBefore, hd]

theorem isTitleCase_titleCase {t : Text} (h : IsAscii t) : IsTitleCase t (titleCase t) where
  length_eq := length_titleAfter h false
  other i c hc hother := by
    rw [titleCase, getElem?_titleAfter h, hc, Option.map_some, toUpper_eq_self hother,
      toLower_eq_self_of_not_alpha hother, ite_self]
  capital_iff i c hc hletter := by
    rw [titleCase, getElem?_titleAfter h, hc, Option.map_some, beginsWord_iff hc,
      Option.some.injEq]
    cases letterBefore false t i with
    | false => exact iff_of_true rfl rfl
    | true => exact iff_of_false (toUpper_ne_toLower hletter).symm (by decide)
  small i c hc hletter hword := by
    rw [beginsWord_iff hc, Bool.not_eq_false] at hword
    rw [titleCase, getElem?_titleAfter h, hc, Option.map_some, if_pos hword]

end Text

/-! ## Parts of addresses -/

namespace Text

/-- A character that is the lower case of no other one and of itself. -/
def IsCaseless (sep : Char) : Prop := ∀ c : Char, c.toLower = sep ↔ c = sep

theorem isCaseless_of_toNat_lt {sep : Char} (h : sep.toNat < 65) : IsCaseless sep := by
  intro c
  rw [← Char.toNat_inj, ← Char.toNat_inj, toNat_toLower]
  split_ifs <;> omega

variable {sep : Char}

theorem split_asciiLower (h : IsCaseless sep) (t : Text) :
    split sep (asciiLower t) = ((split sep t).1.asciiLower, (split sep t).2.map asciiLower) := by
  induction t with
  | nil => rfl
  | cons c t ih =>
    rw [asciiLower_cons, split, split, ih]
    simp only [h c]
    split_ifs <;> rfl

theorem cut?_asciiLower (h : IsCaseless sep) (t : Text) :
    cut? sep (asciiLower t) =
      (cut? sep t).map fun sides => (asciiLower sides.1, asciiLower sides.2) := by
  induction t with
  | nil => rfl
  | cons c t ih =>
    rw [asciiLower_cons, cut?, cut?, ih]
    simp only [h c]
    split_ifs
    · rfl
    · cases cut? sep t <;> rfl

end Text

namespace Recipient.Address

variable (address : Text)

theorem isCaseless_at : Text.IsCaseless '@' := Text.isCaseless_of_toNat_lt (by decide)

theorem isCaseless_stop : Text.IsCaseless '.' := Text.isCaseless_of_toNat_lt (by decide)

/-- The parts at the first at sign keep their letters. The stand-in parts are in
small letters. -/
theorem mailbox_host_asciiLower :
    mailbox address.asciiLower = (mailbox address).asciiLower ∧
      host address.asciiLower = (host address).asciiLower := by
  rw [mailbox, mailbox, host, host, Text.cut?_asciiLower isCaseless_at]
  cases address.cut? '@' with
  | none => decide
  | some sides => exact ⟨rfl, rfl⟩

theorem firstName_asciiLower : firstName address.asciiLower = firstName address := by
  rw [firstName, (mailbox_host_asciiLower address).1, Text.split_asciiLower isCaseless_stop]
  exact Text.titleCase_asciiLower _

theorem lastName_asciiLower : lastName address.asciiLower = lastName address := by
  rw [lastName, lastName, (mailbox_host_asciiLower address).1,
    Text.split_asciiLower isCaseless_stop]
  cases ((mailbox address).split '.').2 with
  | nil => rfl
  | cons part parts => exact Text.titleCase_asciiLower part

theorem company_asciiLower : company address.asciiLower = company address := by
  rw [company, domain, (mailbox_host_asciiLower address).2, Text.split_asciiLower isCaseless_stop]
  exact Text.titleCase_asciiLower _

end Recipient.Address

/-! ## Records -/

namespace Context

open Recipient (addressSegment lastValue?)
open Recipient.Address

variable (context : Context)

/-- A built-in variable has the value that the line gives, and else the derived
one. -/
theorem get?_record_builtin (raw : Text) (b : Builtin) :
    (context.record raw).get? b.name =
      (lastValue? raw b.name).or (some (context.derived (addressSegment raw) b)) := by
  rw [Record.get?, b.isKey_name.lower_eq, lookup_record, addressRecord_eq,
    Record.lookup_putBuiltins, if_pos (Builtin.mem_all b)]

theorem derived_congr {address address' : Text} {b : Builtin}
    (h : address.asciiLower = address'.asciiLower) (hb : b ∈ Builtin.ofNames) (other : Context) :
    context.derived address b = other.derived address' b := by
  simp only [Builtin.ofNames, List.mem_cons, List.not_mem_nil, or_false] at hb
  rcases hb with rfl | rfl | rfl
  · rw [derived, derived, ← firstName_asciiLower, h, firstName_asciiLower]
  · rw [derived, derived, ← lastName_asciiLower, h, lastName_asciiLower]
  · rw [derived, derived, ← company_asciiLower, h, company_asciiLower]

/-- **Letter case.** Title case of ASCII makes capitals of the letters that begin
words, small letters of the others, and keeps the rest; it does so once and for
all, and whatever the case of the letters was. So lines whose addresses differ
in nothing else give the same first name, last name and company, unless a field
takes their place. -/
theorem names_ignore_letter_case (context other : Context) :
    (∀ t : Text, t.IsAscii →
      t.IsTitleCase t.titleCase ∧ t.titleCase.titleCase = t.titleCase) ∧
    (∀ s t : Text, s.asciiLower = t.asciiLower → s.titleCase = t.titleCase) ∧
    ∀ raw line : Text, (addressSegment raw).asciiLower = (addressSegment line).asciiLower →
      ∀ b ∈ Builtin.ofNames,
        context.derived (addressSegment raw) b = other.derived (addressSegment line) b ∧
          (lastValue? raw b.name = lastValue? line b.name →
            (context.record raw).get? b.name = (other.record line).get? b.name) := by
  refine ⟨fun t ht => ⟨Text.isTitleCase_titleCase ht, Text.titleCase_titleCase ht⟩,
    fun s t => Text.titleCase_congr, fun raw line haddress b hb => ?_⟩
  have hderived := context.derived_congr haddress hb other
  refine ⟨hderived, fun hlast => ?_⟩
  rw [context.get?_record_builtin, other.get?_record_builtin, hlast, hderived]

/-- A word begins behind an apostrophe, a hyphen and a digit; two lines with the
same address in different case, of which one gives a company. -/
theorem names_ignore_letter_case_in_address :
    let context : Context := ⟨⟨2025, 4, 18, 14, 30, 45, 0⟩, defaultUnsubscribeBase⟩
    let raw := "MARY-ann.o'neil@ACME2b.org".toList
    let line := " Mary-Ann.O'NEIL@acme2B.Org|company=Globex".toList
    Text.IsTitleCase "mary-ANN o'nEIL 2b".toList "Mary-Ann O'Neil 2B".toList ∧
      Text.titleCase "ACME2b".toList = Text.titleCase "acme2B".toList ∧
      (addressSegment raw).asciiLower = (addressSegment line).asciiLower ∧
      (context.record raw).get? Builtin.lastname.name =
        (context.record line).get? Builtin.lastname.name := by
  intro context raw line
  obtain ⟨htitle, hcongr, hnames⟩ := names_ignore_letter_case context context
  have haddress : (addressSegment raw).asciiLower = (addressSegment line).asciiLower := by
    decide +kernel
  have hlast : lastValue? raw Builtin.lastname.name = lastValue? line Builtin.lastname.name := by
    decide +kernel
  have hwords : Text.titleCase "mary-ANN o'nEIL 2b".toList = "Mary-Ann O'Neil 2B".toList := by
    decide +kernel
  have hsound := (htitle "mary-ANN o'nEIL 2b".toList (by decide +kernel)).1
  rw [hwords] at hsound
  exact ⟨hsound, hcongr _ _ (by decide), haddress,
    (hnames raw line haddress .lastname (by decide)).2 hlast⟩

end Context

end FormLetter
