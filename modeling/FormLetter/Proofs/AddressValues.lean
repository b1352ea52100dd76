import FormLetter.Proofs.Numerals
import FormLetter.Proofs.SoundRecords
import FormLetter.Proofs.CanonicalLine

/-!
# What is derived from an address

An address is cut at its first at sign, and the two parts at their first full
stops; names are made of the parts, and a number of three digits is a hash of
the whole. The values stay true to the address however often it has an at sign
or a full stop, and they are what a record has unless a field takes their place.

Specification: `firstPart` and `secondPart` are the parts of a text at its first
two full stops, `fnvHash` is the hash in natural numbers, and `AddressValues`
says what the values for an address have to be.

Results:

* `mailbox_append_host`, `mailbox_host_of_notMem`: the parts of an address with
  and without an at sign.
* `fst_split`, `headD_snd_split`: the parts at separators.
* `toNat_fnv1a`: the hash in words of 32 bits is the hash in natural numbers.
* `addressValues_derived`: what is derived from an address is what it has to be.
* `record_derives_from_address`: so is what the record of a line has.
-/

namespace FormLetter

/-! ## Specification -/

namespace Text

/-- The text up to its first full stop, or all of it. -/
def firstPart (t : Text) : Text := t.takeWhile (· ≠ '.')

/-- The text behind its first full stop and up to the second, or to the end. It
is empty if there is no full stop. -/
def secondPart (t : Text) : Text := firstPart ((t.dropWhile (· ≠ '.')).drop 1)

end Text

namespace Recipient

/-- The FNV-1a hash of some bytes: every byte is mixed in by exclusive or, and
then the number is multiplied and cut to 32 bits. -/
def fnvHash (bytes : List UInt8) : ℕ :=
  bytes.foldl (fun hash byte => (hash ^^^ byte.toNat) * 16777619 % 2 ^ 32) 2166136261

/-- What the built-in variables have to be for an address, except for those that
are read off the clock. -/
structure AddressValues (unsubscribeBase address : Text) (malformed : Bool)
    (value : Builtin → Text) : Prop where
  email_eq : value .email = address
  recipientEmail_eq : value .recipientEmail = address
  unsubscribe_eq : value .unsubscribe = unsubscribeBase ++ "?email=".toList ++ address
  of_mem : '@' ∈ address → malformed = false ∧ '@' ∉ value .emailname ∧
    value .emailname ++ '@' :: value .fullDomain = address
  of_notMem : '@' ∉ address → malformed = true ∧ value .emailname = "user".toList ∧
    value .fullDomain = "example.com".toList
  stop_notMem_domain : '.' ∉ value .domain
  fullDomain_eq : value .fullDomain = value .domain ∨
    ∃ rest, value .fullDomain = value .domain ++ '.' :: rest
  firstname_eq : value .firstname = (value .emailname).firstPart.titleCase
  lastname_eq : value .lastname = (value .emailname).secondPart.titleCase
  company_eq : value .company = (value .domain).titleCase
  length_number : (value .randomNumber).length = 3
  isDigit_number : ∀ c ∈ value .randomNumber, c.isDigit = true
  number_eq : Text.digitsValue (value .randomNumber) = fnvHash address.utf8 % 1000

end Recipient

/-! ## Parts at separators -/

namespace Text

theorem fst_split (sep : Char) (t : Text) : (split sep t).1 = t.takeWhile (· ≠ sep) := by
  induction t with
  | nil => rfl
  | cons c t ih => by_cases hc : c = sep <;> simp [split, hc, ih]

theorem headD_snd_split (sep : Char) (t : Text) :
    (split sep t).2.headD [] =
      ((t.dropWhile (· ≠ sep)).drop 1).takeWhile (· ≠ sep) := by
  induction t with
  | nil => rfl
  | cons c t ih =>
    by_cases hc : c = sep
    · simp [split, hc, fst_split]
    · rw [split, if_neg hc, List.dropWhile_cons_of_pos (by simpa using hc), ih]

/-- A text is its first part, with a separator behind it if there is one. -/
theorem eq_fst_split_or (sep : Char) (t : Text) :
    t = (split sep t).1 ∨ ∃ rest, t = (split sep t).1 ++ sep :: rest := by
  have hjoin := join_split sep t
  cases hothers : (split sep t).2 with
  | nil =>
    rw [hothers, join, List.flatMap_nil, List.append_nil] at hjoin
    exact .inl hjoin.symm
  | cons next others =>
    rw [hothers, join_cons] at hjoin
    exact .inr ⟨_, hjoin.symm⟩

end Text

/-! ## Addresses -/

namespace Recipient.Address

variable {address : Text}

theorem mailbox_append_host (h : '@' ∈ address) :
    mailbox address ++ '@' :: host address = address ∧ '@' ∉ mailbox address := by
  cases hcut : address.cut? '@' with
  | none => exact absurd h (Text.cut?_eq_none_iff.mp hcut)
  | some sides =>
    obtain ⟨left, right⟩ := sides
    obtain ⟨haddress, hleft⟩ := Text.eq_of_cut? hcut
    rw [mailbox, host, hcut]
    exact ⟨haddress.symm, hleft⟩

theorem mailbox_host_of_notMem (h : '@' ∉ address) :
    mailbox address = "user".toList ∧ host address = "example.com".toList := by
  rw [mailbox, host, Text.cut?_eq_none_iff.mpr h]
  exact ⟨rfl, rfl⟩

theorem firstName_eq (address : Text) :
    firstName address = (mailbox address).firstPart.titleCase := by
  rw [firstName, Text.fst_split]
  rfl

theorem lastName_eq (address : Text) :
    lastName address = (mailbox address).secondPart.titleCase := by
  rw [lastName, Text.headD_snd_split]
  rfl

/-! ## The hash -/

/-- One byte more in words of 32 bits. -/
theorem toNat_fnv1a_step (hash : UInt32) (byte : UInt8) :
    ((hash ^^^ byte.toUInt32) * 0x01000193).toNat =
      (hash.toNat ^^^ byte.toNat) * 16777619 % 2 ^ 32 := by
  rw [UInt32.toNat_mul, UInt32.toNat_xor, UInt8.toNat_toUInt32]
  rfl

theorem toNat_fnv1a (bytes : List UInt8) : (fnv1a bytes).toNat = fnvHash bytes := by
  have hfold (hash : UInt32) :
      (bytes.foldl (fun hash byte => (hash ^^^ byte.toUInt32) * 0x01000193) hash).toNat =
        bytes.foldl (fun hash byte => (hash ^^^ byte.toNat) * 16777619 % 2 ^ 32) hash.toNat := by
    induction bytes generalizing hash with
    | nil => rfl
    | cons byte bytes ih => rw [List.foldl_cons, List.foldl_cons, ih, toNat_fnv1a_step]
  exact hfold 0x811C9DC5

end Recipient.Address

/-! ## Records -/

namespace Context

open Recipient (AddressValues addressSegment lastValue?)
open Recipient.Address

variable (context : Context)

theorem addressValues_derived (address : Text) :
    AddressValues context.unsubscribeBase address (decide ('@' ∉ address))
      (context.derived address) where
  email_eq := rfl
  recipientEmail_eq := rfl
  unsubscribe_eq := rfl
  of_mem h := by
    obtain ⟨hparts, hmailbox⟩ := mailbox_append_host h
    exact ⟨by simpa using h, hmailbox, hparts⟩
  of_notMem h := ⟨decide_eq_true h, mailbox_host_of_notMem h⟩
  stop_notMem_domain := Text.notMem_of_mem_split List.mem_cons_self
  fullDomain_eq := Text.eq_fst_split_or '.' (host address)
  firstname_eq := firstName_eq address
  lastname_eq := lastName_eq address
  company_eq := rfl
  length_number := Text.length_padded (by decide) (Nat.mod_lt _ (by decide))
  isDigit_number _ := Text.isDigit_of_mem_padded
  number_eq := by
    rw [derived, digits, Text.digitsValue_padded, toNat_fnv1a]

/-- A record has what is derived from the address of its line, unless a field
takes its place. -/
theorem get?_record_of_lastValue?_eq_none {raw : Text} {b : Builtin}
    (h : lastValue? raw b.name = none) :
    (context.record raw).get? b.name = some (context.derived (addressSegment raw) b) := by
  rw [Record.get?, b.isKey_name.lower_eq, lookup_record, h, Option.none_or, addressRecord_eq,
    Record.lookup_putBuiltins, if_pos (Builtin.mem_all b)]

/-- **Addresses.** For every line, what is derived from the segment with the
address is what it has to be for this address, together with the mark that tells
whether the stand-in parts were used. A name has the derived value in the record
of the line unless the line gives a value for it. The number comes from the
address alone: it is the same in every context and for every line with the same
address. -/
theorem record_derives_from_address (context : Context) (raw : Text) :
    AddressValues context.unsubscribeBase (addressSegment raw) (context.record raw).malformed
        (context.derived (addressSegment raw)) ∧
      (∀ b : Builtin, lastValue? raw b.name = none →
        (context.record raw).get? b.name = some (context.derived (addressSegment raw) b)) ∧
      ∀ (other : Context) (line : Text), addressSegment line = addressSegment raw →
        lastValue? line Builtin.randomNumber.name = none →
        lastValue? raw Builtin.randomNumber.name = none →
        (other.record line).get? Builtin.randomNumber.name =
          (context.record raw).get? Builtin.randomNumber.name := by
  refine ⟨?_, fun b => context.get?_record_of_lastValue?_eq_none,
    fun other line haddress hline hraw => ?_⟩
  · rw [malformed_record]
    exact context.addressValues_derived (addressSegment raw)
  · rw [other.get?_record_of_lastValue?_eq_none hline,
      context.get?_record_of_lastValue?_eq_none hraw, haddress]
    rfl

/-- An address with three full stops in front of two at signs, in a line that
gives one of the built-in variables as a field. -/
theorem record_derives_from_repeated_stops :
    let context : Context := ⟨⟨2024, 1, 1, 0, 0, 0, 0⟩, defaultUnsubscribeBase⟩
    let other : Context := ⟨⟨2025, 4, 18, 14, 30, 45, 0⟩, "https://a.b/leave".toList⟩
    let raw := " jANE.van.der.Smith@mail@example.org |Company=Globex".toList
    let line := "jANE.van.der.Smith@mail@example.org ||".toList
    lastValue? raw "lastname".toList = none ∧
      (context.record raw).get? "lastname".toList = some "Van".toList ∧
      addressSegment line = addressSegment raw ∧
      (other.record line).get? "random_number".toList =
        (context.record raw).get? "random_number".toList := by
  intro context other raw line
  obtain ⟨hvalues, hget, hnumber⟩ := record_derives_from_address context raw
  have hlastname : lastValue? raw "lastname".toList = none := by decide +kernel
  have haddress : addressSegment line = addressSegment raw := by decide +kernel
  refine ⟨hlastname, ?_, haddress, ?_⟩
  · have hvalue : context.derived (addressSegment raw) .lastname = "Van".toList := by
      decide +kernel
    rw [← hvalue]
    exact hget .lastname hlastname
  · exact hnumber other line haddress (by decide +kernel) (by decide +kernel)

end Context

end FormLetter
