import FormLetter.Number.Binary64
import FormLetter.Text.Basic

/-!
# Shortest decimal numerals

The decimal numeral of a number is the shortest one that reads back as the number, and of several
the nearest to it. A format says which of two equally near ones counts, which numbers have an
exponent, and how whole numbers end.

Results:

* `admits_of_onGrid?`: the fraction found on a grid reads back.
-/

namespace FormLetter.Binary64

/-! ## Digits -/

/-- Which of two decimal fractions counts if they are equally near. -/
inductive Tie
  /-- The greater one. -/
  | up
  /-- The one with an even last digit. -/
  | even
  deriving DecidableEq, Repr

namespace Tie

/-- Whether the lesser of two neighbours counts, which has the digits `below`. -/
def takesBelow (tie : Tie) (below : Nat) : Bool := tie = even && below % 2 = 0

end Tie

/-- The decimal fractions `digits * 10 ^ exponent` that read back as `mantissa * 2 ^ exponent`, in
terms of the bounds between which they lie. All bounds are multiples of `num / den`. -/
structure Rounding where
  low : Nat
  middle : Nat
  high : Nat
  num : Nat
  den : Nat
  /-- Whether the bounds themselves read back. -/
  closed : Bool

/-- The fractions that read back as a positive number. -/
def rounding (mantissa : Nat) (exponent : Int) : Rounding where
  low :=
    if mantissa = fullMantissa ∧ minExponent < exponent then 4 * mantissa - 1
    else 4 * mantissa - 2
  middle := 4 * mantissa
  high := 4 * mantissa + 2
  num := Nat.pow 2 (exponent - 2).toNat
  den := Nat.pow 2 (2 - exponent).toNat
  closed := mantissa % 2 = 0

namespace Rounding

/-- The number of digits before the decimal point, negative if zeros follow the point. -/
def magnitude (r : Rounding) : Int :=
  ((Nat.toDigits 10 (r.middle * r.num * Nat.pow 10 400 / r.den)).length : Int) - 400

/-- Whether `digits * scale / den` reads back, where bounds are multiples of `num / den`. -/
def admits (r : Rounding) (num den digits : Nat) : Bool :=
  let low := r.low * num
  let high := r.high * num
  let value := digits * den
  if r.closed then low ≤ value && value ≤ high else low < value && value < high

/-- The nearest fraction with a unit of `10 ^ unit` that reads back. -/
def onGrid? (r : Rounding) (tie : Tie) (unit : Int) : Option Nat :=
  let num := r.num * Nat.pow 10 (-unit).toNat
  let den := r.den * Nat.pow 10 unit.toNat
  let middle := r.middle * num
  let below := middle / den
  match r.admits num den below, r.admits num den (below + 1) with
  | true, true =>
    let twice := 2 * (middle - below * den)
    some (if twice < den || (twice = den && tie.takesBelow below) then below else below + 1)
  | true, false => some below
  | false, true => some (below + 1)
  | false, false => none

theorem admits_of_onGrid? {r : Rounding} {tie : Tie} {unit : Int} {digits : Nat}
    (h : r.onGrid? tie unit = some digits) :
    r.admits (r.num * Nat.pow 10 (-unit).toNat) (r.den * Nat.pow 10 unit.toNat) digits = true := by
  simp only [onGrid?] at h
  split at h
  · next hbelow habove =>
    split at h
    · cases h; exact hbelow
    · cases h; exact habove
  · next hbelow _ => cases h; exact hbelow
  · next _ habove => cases h; exact habove
  · cases h

/-- The first fraction found with `count` digits, `count + 1` digits and so on. -/
def search (r : Rounding) (tie : Tie) (magnitude : Int) (count : Nat) : Nat → Nat × Int
  | 0 => (0, 0)
  | fuel + 1 =>
    let unit := magnitude - count
    match r.onGrid? tie unit with
    | some digits => (digits, unit)
    | none => r.search tie magnitude (count + 1) fuel

/-- The shortest fraction that reads back, as digits and a power of ten. Seventeen digits always
suffice. The first grid has one point only, the power of ten above the number. -/
def shortest (r : Rounding) (tie : Tie) : Nat × Int := r.search tie r.magnitude 0 18

end Rounding

/-! ## Numerals -/

/-- How numbers are written. -/
structure FractionFormat where
  /-- Which of two equally near fractions counts. -/
  tie : Tie
  /-- Between which powers of ten of its first digit, both included, a number has no exponent; no
  number has one if there are no bounds. -/
  plain : Option (Int × Int)
  /-- Whether whole numbers without an exponent end in a point and a zero. -/
  pointed : Bool

namespace FractionFormat

/-- Whether a number has no exponent; `leading` is the power of ten of its first digit. -/
def isPlain (f : FractionFormat) (leading : Int) : Bool :=
  match f.plain with
  | some (least, greatest) => least ≤ leading && leading ≤ greatest
  | none => true

/-- The numeral of `digits * 10 ^ exponent` without an exponent. -/
def plainText (f : FractionFormat) (digits : Text) (exponent : Int) : Text :=
  if 0 ≤ exponent then
    digits ++ List.replicate exponent.toNat '0' ++ if f.pointed then ".0".toList else []
  else
    let places := (-exponent).toNat
    let filled := List.replicate (places + 1 - digits.length) '0' ++ digits
    let whole := filled.length - places
    filled.take whole ++ '.' :: filled.drop whole

/-- The numeral of `digits * 10 ^ exponent`. In front of an exponent the point follows the first
digit, and the exponent has a sign always. -/
def numeral (f : FractionFormat) (digits : Text) (exponent : Int) : Text :=
  let leading := exponent + digits.length - 1
  if f.isPlain leading then f.plainText digits exponent
  else
    let point : Text := if digits.length = 1 then [] else ['.']
    let sign : Char := if leading < 0 then '-' else '+'
    digits.take 1 ++ point ++ digits.drop 1 ++ 'e' :: sign :: Text.ofNat leading.natAbs

end FractionFormat

/-- The sign of a negative number. -/
def signText (negative : Bool) : Text := if negative then ['-'] else []

/-- The shortest decimal numeral of a number in a format. -/
def text (f : FractionFormat) : Binary64 → Text
  | nan => "NaN".toList
  | infinite negative => signText negative ++ "inf".toList
  | finite negative mantissa exponent =>
    signText negative ++
      if mantissa = 0 then f.numeral ['0'] 0
      else
        let shortest := (rounding mantissa exponent).shortest f.tie
        f.numeral (Text.ofNat shortest.1) shortest.2

end FormLetter.Binary64
