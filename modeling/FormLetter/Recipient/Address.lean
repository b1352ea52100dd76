import FormLetter.Text.Case

/-!
# Addresses

What follows from the address of a recipient: its parts, the names that it suggests and a number
of three digits. An address without an at sign has the parts of a stand-in address.

Results:

* `isMalformed_eq_false_iff`: an address is well formed when it has an at sign.
-/

namespace FormLetter.Recipient.Address

/-- The parts that an address without an at sign is given: `FALLBACK_EMAILNAME` and
`FALLBACK_DOMAIN`. -/
def standIn : Text × Text := ("user".toList, "example.com".toList)

/-- Whether the address has no at sign. -/
def isMalformed (address : Text) : Bool := (address.cut? '@').isNone

theorem isMalformed_eq_false_iff {address : Text} :
    isMalformed address = false ↔ '@' ∈ address := by
  rw [isMalformed, Option.isNone_eq_false_iff, Option.isSome_iff_ne_none, ne_eq,
    Text.cut?_eq_none_iff, Classical.not_not]

/-- The part before the first at sign. -/
def mailbox (address : Text) : Text := ((address.cut? '@').getD standIn).1

/-- The part after the first at sign. -/
def host (address : Text) : Text := ((address.cut? '@').getD standIn).2

/-- The host up to its first full stop. -/
def domain (address : Text) : Text := ((host address).split '.').1

/-- The mailbox up to its first full stop, as a name: the first part of `derive_names`. -/
def firstName (address : Text) : Text := ((mailbox address).split '.').1.titleCase

/-- The part of the mailbox after its first full stop and up to the second, as a name: the second
part of `derive_names`. -/
def lastName (address : Text) : Text := (((mailbox address).split '.').2.headD []).titleCase

/-- The domain, as a name. -/
def company (address : Text) : Text := (domain address).titleCase

/-- The FNV-1a hash of some bytes in 32 bits: `fnv1a_32`. -/
def fnv1a (bytes : List UInt8) : UInt32 :=
  bytes.foldl (fun hash byte => (hash ^^^ byte.toUInt32) * 0x01000193) 0x811C9DC5

/-- Three digits that depend on the address alone: `random_number`. -/
def digits (address : Text) : Text := Text.padded 3 ((fnv1a address.utf8).toNat % 1000)

end FormLetter.Recipient.Address
