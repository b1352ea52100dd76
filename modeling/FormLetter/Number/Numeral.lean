import FormLetter.Number.Binary64
import FormLetter.Text.Basic

/-!
# Reading numerals

Decimal numerals as people write them into configuration: integers with an optional sign, natural
numbers, and fractions with an optional exponent or one of the words for infinity and for no
number. Each reader takes the whole text or nothing.
-/

namespace FormLetter.Numeral

/-- Whether a text is one or more digits. -/
def isDigits (t : Text) : Bool := !t.isEmpty && t.all Char.isDigit

/-- A sign at the start of a text, negative or not, and the text after it. -/
def sign : Text → Bool × Text
  | '-' :: rest => (true, rest)
  | '+' :: rest => (false, rest)
  | t => (false, t)

/-- Reads an integer with an optional sign that fits into 64 bits. -/
def integer? (t : Text) : Option Int :=
  let (negative, digits) := sign t
  if isDigits digits then
    let n := Text.digitsValue digits
    if negative then if 2 * n ≤ UInt64.size then some (-(n : Int)) else none
    else if 2 * n < UInt64.size then some (n : Int) else none
  else none

/-- Reads a natural number with an optional plus sign that fits into 64 bits. -/
def natural? (t : Text) : Option Nat :=
  let digits :=
    match t with
    | '+' :: rest => rest
    | t => t
  if isDigits digits then
    let n := Text.digitsValue digits
    if n < UInt64.size then some n else none
  else none

/-- Reads the exponent of a fraction, which may be absent. -/
def exponent? : Text → Option Int
  | [] => some 0
  | e :: rest =>
    if e = 'e' ∨ e = 'E' then
      let (negative, digits) := sign rest
      if isDigits digits then
        let n := Text.digitsValue digits
        some (if negative then -(n : Int) else n)
      else none
    else none

/-- Reads a fraction without a sign. Digits may be absent on one side of the point. -/
def unsignedFraction? (negative : Bool) (t : Text) : Option Binary64 :=
  let whole := t.takeWhile Char.isDigit
  let rest := t.dropWhile Char.isDigit
  let (places, rest) :=
    match rest with
    | '.' :: rest => (rest.takeWhile Char.isDigit, rest.dropWhile Char.isDigit)
    | rest => ([], rest)
  if whole.isEmpty && places.isEmpty then none
  else
    (exponent? rest).map fun e =>
      Binary64.ofDecimal negative (Text.digitsValue (whole ++ places)) (e - places.length)

/-- Reads a fraction with an optional sign, or a word for infinity or for no number in any letter
case. -/
def fraction? (t : Text) : Option Binary64 :=
  let (negative, rest) := sign t
  let word := rest.asciiLower
  if word = "nan".toList then some .nan
  else if word = "inf".toList ∨ word = "infinity".toList then some (.infinite negative)
  else unsignedFraction? negative rest

end FormLetter.Numeral
