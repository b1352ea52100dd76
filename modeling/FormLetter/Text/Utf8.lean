import FormLetter.Text.Basic

/-!
# Decoding UTF-8

Bytes are text if they fall into the sequences of UTF-8: no byte is missing or left over, no
character takes more bytes than it needs, and none is a surrogate or beyond the last code point.
-/

namespace FormLetter.Text

/-- The six bits that a continuation byte carries. -/
def continuation? (byte : UInt8) : Option Nat :=
  if 0x80 ≤ byte && byte < 0xC0 then some (byte.toNat - 0x80) else none

/-- The character of a code point that is at least `least`. -/
def codePoint? (least n : Nat) : Option Char :=
  if h : n.isValidChar then if least ≤ n then some (Char.ofNatAux n h) else none else none

/-- The first character of some bytes, and the bytes after it. -/
def decodeChar? : List UInt8 → Option (Char × List UInt8)
  | [] => none
  | a :: rest =>
    if a < 0x80 then (codePoint? 0 a.toNat).map (·, rest)
    else if a < 0xC0 then none
    else if a < 0xE0 then
      match rest with
      | b :: rest => do
        let b ← continuation? b
        (codePoint? 0x80 ((a.toNat - 0xC0) * 64 + b)).map (·, rest)
      | _ => none
    else if a < 0xF0 then
      match rest with
      | b :: c :: rest => do
        let b ← continuation? b
        let c ← continuation? c
        (codePoint? 0x800 (((a.toNat - 0xE0) * 64 + b) * 64 + c)).map (·, rest)
      | _ => none
    else if a < 0xF8 then
      match rest with
      | b :: c :: d :: rest => do
        let b ← continuation? b
        let c ← continuation? c
        let d ← continuation? d
        (codePoint? 0x10000 ((((a.toNat - 0xF0) * 64 + b) * 64 + c) * 64 + d)).map (·, rest)
      | _ => none
    else none

/-- Decodes at most `fuel` characters in front of which `before` stands in reverse order. -/
def decodeAfter (before : Text) : Nat → List UInt8 → Option Text
  | _, [] => some before.reverse
  | 0, _ :: _ => none
  | fuel + 1, bytes =>
    match decodeChar? bytes with
    | some (c, rest) => decodeAfter (c :: before) fuel rest
    | none => none

/-- The text whose UTF-8 bytes are given. -/
def ofUtf8? (bytes : List UInt8) : Option Text := decodeAfter [] bytes.length bytes

end FormLetter.Text
