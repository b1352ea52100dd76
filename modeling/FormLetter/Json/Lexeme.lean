import FormLetter.Json.Value
import FormLetter.Text.Utf8

/-!
# The lexemes of JSON

Blanks, words, numerals and strings at the start of some bytes. Each reader gives what it has read
and the bytes after it.
-/

namespace FormLetter.Json

/-- The bytes without the blanks at their start. -/
def skipBlanks (bytes : List UInt8) : List UInt8 :=
  bytes.dropWhile fun b => b == 0x20 || b == 0x0A || b == 0x0D || b == 0x09

/-- The bytes after a word of ASCII at their start. -/
def word? (word : String) (bytes : List UInt8) : Option (List UInt8) :=
  let w := Text.utf8 word.toList
  if w.isPrefixOf bytes then some (bytes.drop w.length) else none

/-! ## Numerals -/

/-- A numeral as written: sign, digits before and after the point, and the exponent. -/
structure NumeralParts where
  negative : Bool
  whole : List Nat
  places : Option (List Nat)
  exponent : Option Int

/-- Whether a byte is a digit. -/
def isDigitByte (b : UInt8) : Bool := 0x30 ≤ b && b ≤ 0x39

/-- The digits at the start of some bytes. -/
def digits (bytes : List UInt8) : List Nat × List UInt8 :=
  ((bytes.takeWhile isDigitByte).map fun b => b.toNat - 0x30, bytes.dropWhile isDigitByte)

/-- The number that digits denote. -/
def digitsValue (ds : List Nat) : Nat := ds.foldl (fun n d => 10 * n + d) 0

/-- The digits after a decimal point, if one comes first. At least one has to follow. -/
def places? : List UInt8 → Option (Option (List Nat) × List UInt8)
  | 0x2E :: rest =>
    match digits rest with
    | ([], _) => none
    | (ds, rest) => some (some ds, rest)
  | bytes => some (none, bytes)

/-- The exponent, if one comes first. At least one digit has to follow. -/
def exponent? (bytes : List UInt8) : Option (Option Int × List UInt8) :=
  match bytes with
  | [] => some (none, [])
  | b :: rest =>
    if b == 0x65 || b == 0x45 then
      let (negative, rest) :=
        match rest with
        | 0x2D :: rest => (true, rest)
        | 0x2B :: rest => (false, rest)
        | rest => (false, rest)
      match digits rest with
      | ([], _) => none
      | (ds, rest) =>
        let n : Int := digitsValue ds
        some (some (if negative then -n else n), rest)
    else some (none, bytes)

/-- A numeral. Its digits before the point have no needless zero in front. -/
def numeral? (bytes : List UInt8) : Option (NumeralParts × List UInt8) :=
  let (negative, bytes) :=
    match bytes with
    | 0x2D :: rest => (true, rest)
    | bytes => (false, bytes)
  match digits bytes with
  | ([], _) => none
  | (0 :: _ :: _, _) => none
  | (whole, rest) => do
    let (places, rest) ← places? rest
    let (exponent, rest) ← exponent? rest
    some (⟨negative, whole, places, exponent⟩, rest)

/-- Takes digits into a number as long as it fits into 64 bits, and counts them. -/
def absorb (n : Nat) : List Nat → Nat × Nat
  | [] => (n, 0)
  | d :: ds =>
    if 10 * n + d < UInt64.size then
      let r := absorb (10 * n + d) ds
      (r.1, r.2 + 1)
    else (n, 0)

/-- A number of at most 64 bits times a power of ten, computed with one rounding for the number,
one for the power and one for their product; nothing if it is too great. Powers below the smallest
are applied in two steps. -/
def scale? (negative : Bool) (n : Nat) (exponent : Int) : Option Binary64 :=
  match Binary64.ofRatio negative n 1 with
  | .finite _ m e =>
    if m = 0 then some (.zero negative)
    else if 308 < exponent then none
    else if 0 ≤ exponent then Binary64.mulTenPow? negative m e exponent.toNat
    else if -308 ≤ exponent then some (Binary64.divTenPow negative m e (-exponent).toNat)
    else if -616 ≤ exponent then
      match Binary64.divTenPow negative m e 308 with
      | .finite _ m e => some (Binary64.divTenPow negative m e (-exponent - 308).toNat)
      | x => some x
    else some (.zero negative)
  | x => some x

/-- The value of a numeral; nothing if it is too great. A numeral without fraction and exponent is
an integer if it fits into 64 bits, with the exception of a negative zero. -/
def NumeralParts.value? (parts : NumeralParts) : Option Json :=
  let whole := absorb 0 parts.whole
  let dropped : Int := parts.whole.length - whole.2
  match parts.places, parts.exponent with
  | none, none =>
    if dropped = 0 then
      if !parts.negative then some (.integer whole.1)
      else if 0 < whole.1 && 2 * whole.1 ≤ UInt64.size then some (.integer (-(whole.1 : Int)))
      else some (.float (Binary64.ofRatio true whole.1 1))
    else (scale? parts.negative whole.1 dropped).map .float
  | places, exponent =>
    let all := absorb whole.1 (places.getD [])
    (scale? parts.negative all.1 (dropped - all.2 + exponent.getD 0)).map .float

/-! ## Strings -/

/-- The inside of a string after its opening quote, and the bytes after its closing quote. -/
def stringBytes? : List UInt8 → Option (List UInt8 × List UInt8)
  | [] => none
  | 0x22 :: rest => some ([], rest)
  | 0x5C :: b :: rest => (stringBytes? rest).map fun r => (0x5C :: b :: r.1, r.2)
  | b :: rest => (stringBytes? rest).map fun r => (b :: r.1, r.2)

/-- The value of a hexadecimal digit. -/
def hexDigit? (b : UInt8) : Option Nat :=
  if isDigitByte b then some (b.toNat - 0x30)
  else if 0x41 ≤ b && b ≤ 0x46 then some (b.toNat - 0x41 + 10)
  else if 0x61 ≤ b && b ≤ 0x66 then some (b.toNat - 0x61 + 10)
  else none

/-- The value of four hexadecimal digits. -/
def hex? (a b c d : UInt8) : Option Nat := do
  some (((((← hexDigit? a) * 16) + (← hexDigit? b)) * 16 + (← hexDigit? c)) * 16 + (← hexDigit? d))

/-- The byte that a letter stands for after a backslash. -/
def escape? (b : UInt8) : Option UInt8 :=
  if b == 0x22 || b == 0x5C || b == 0x2F then some b
  else if b == 0x62 then some 0x08
  else if b == 0x66 then some 0x0C
  else if b == 0x6E then some 0x0A
  else if b == 0x72 then some 0x0D
  else if b == 0x74 then some 0x09
  else none

/-- The UTF-8 bytes of a code point that is no surrogate. -/
def codeBytes (n : Nat) : List UInt8 := String.utf8EncodeChar (Char.ofNat n)

/-- The bytes that the inside of a string denotes. The halves of a surrogate pair have to stand
together. -/
def unescape? : List UInt8 → Option (List UInt8)
  | [] => some []
  | 0x5C :: 0x75 :: a :: b :: c :: d :: rest =>
    match hex? a b c d with
    | none => none
    | some n =>
      if 0xDC00 ≤ n && n < 0xE000 then none
      else if 0xD800 ≤ n && n < 0xDC00 then
        match rest with
        | 0x5C :: 0x75 :: e :: f :: g :: h :: rest =>
          match hex? e f g h with
          | none => none
          | some m =>
            if 0xDC00 ≤ m && m < 0xE000 then
              (unescape? rest).map
                (codeBytes (0x10000 + (n - 0xD800) * 0x400 + (m - 0xDC00)) ++ ·)
            else none
        | _ => none
      else (unescape? rest).map (codeBytes n ++ ·)
  | 0x5C :: b :: rest =>
    match escape? b with
    | some e => (unescape? rest).map (e :: ·)
    | none => none
  | b :: rest => if b < 0x20 then none else (unescape? rest).map (b :: ·)

/-- Whether the inside of a string has the outer form of one: no control bytes, and after a
backslash one of the letters or four hexadecimal digits. -/
def hasStringForm : List UInt8 → Bool
  | [] => true
  | 0x5C :: 0x75 :: a :: b :: c :: d :: rest => (hex? a b c d).isSome && hasStringForm rest
  | 0x5C :: b :: rest => (escape? b).isSome && hasStringForm rest
  | b :: rest => 0x20 ≤ b && hasStringForm rest

/-- The text of a string after its opening quote. -/
def string? (bytes : List UInt8) : Option (Text × List UInt8) := do
  let (inside, rest) ← stringBytes? bytes
  let t ← Text.ofUtf8? (← unescape? inside)
  some (t, rest)

/-- The bytes after a string of which only the outer form counts. -/
def skipString? (bytes : List UInt8) : Option (List UInt8) := do
  let (inside, rest) ← stringBytes? bytes
  if hasStringForm inside then some rest else none

end FormLetter.Json
