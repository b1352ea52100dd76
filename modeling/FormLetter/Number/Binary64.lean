/-!
# Binary fractions in 64 bits

Numbers with a binary exponent and 53 significant bits, with the infinities and the value that is
no number. Every operation computes the exact result and rounds it once, to the nearest number,
and to the one with an even mantissa where two are equally near.

Results:

* `roundHalfEven_near`: rounding moves a ratio by half a unit at most.
-/

namespace FormLetter

/-- A number of 64 bits. A finite number has the value `mantissa * 2 ^ exponent`. -/
inductive Binary64
  | nan
  | infinite (negative : Bool)
  | finite (negative : Bool) (mantissa : Nat) (exponent : Int)
  deriving DecidableEq, Repr

namespace Binary64

/-- The exponent of the smallest numbers. -/
def minExponent : Int := -1074

/-- The exponent of the greatest numbers. -/
def maxExponent : Int := 971

/-- The least mantissa with 53 bits. Only the smallest numbers have a lesser one. -/
def fullMantissa : Nat := 0x10000000000000

/-- A zero with a sign. -/
def zero (negative : Bool) : Binary64 := finite negative 0 minExponent

/-- The natural number nearest to a ratio, the even one of two. -/
def roundHalfEven (num den : Nat) : Nat :=
  let q := num / den
  let r := num % den
  if 2 * r < den then q
  else if den < 2 * r then q + 1
  else q + q % 2

theorem roundHalfEven_near {num den : Nat} (h : 0 < den) :
    2 * num ≤ 2 * (roundHalfEven num den * den) + den ∧
      2 * (roundHalfEven num den * den) ≤ 2 * num + den := by
  have hdiv := Nat.div_add_mod' num den
  have hmod := Nat.mod_lt num h
  simp only [roundHalfEven]
  split
  · omega
  · split
    · rw [Nat.add_mul]
      omega
    · rw [Nat.add_mul]
      rcases Nat.mod_two_eq_zero_or_one (num / den) with heven | hodd
      · rw [heven]
        omega
      · rw [hodd]
        omega

/-- Numerator and denominator of `num / den / 2 ^ exponent`. -/
def scaleDown (num den : Nat) (exponent : Int) : Nat × Nat :=
  (num * Nat.pow 2 (-exponent).toNat, den * Nat.pow 2 exponent.toNat)

/-- The number nearest to the ratio `num / den` with a sign. -/
def ofRatio (negative : Bool) (num den : Nat) : Binary64 :=
  if num = 0 then zero negative
  else
    let guess : Int := (Nat.log2 num : Int) - (Nat.log2 den : Int) - 52
    let scaled := scaleDown num den guess
    let exponent := if scaled.1 < fullMantissa * scaled.2 then guess - 1 else guess
    let exponent := max exponent minExponent
    let scaled := scaleDown num den exponent
    let mantissa := roundHalfEven scaled.1 scaled.2
    let carry := mantissa = 2 * fullMantissa
    let exponent := if carry then exponent + 1 else exponent
    if maxExponent < exponent then infinite negative
    else finite negative (if carry then fullMantissa else mantissa) exponent

/-- Numerator and denominator of `mantissa * 2 ^ exponent`. -/
def ratio (mantissa : Nat) (exponent : Int) : Nat × Nat :=
  (mantissa * Nat.pow 2 exponent.toNat, Nat.pow 2 (-exponent).toNat)

/-- The number nearest to the decimal fraction `digits * 10 ^ exponent` with a sign. -/
def ofDecimal (negative : Bool) (digits : Nat) (exponent : Int) : Binary64 :=
  let magnitude : Int := (Nat.toDigits 10 digits).length + exponent
  if digits = 0 || magnitude < -330 then zero negative
  else if 330 < magnitude then infinite negative
  else ofRatio negative (digits * Nat.pow 10 exponent.toNat) (Nat.pow 10 (-exponent).toNat)

/-- The finite number multiplied with a positive power of ten of at most 308, which counts as its
nearest number; nothing if the product is too great. -/
def mulTenPow? (negative : Bool) (mantissa : Nat) (exponent : Int) (power : Nat) :
    Option Binary64 :=
  match ofRatio false (Nat.pow 10 power) 1 with
  | finite _ m e =>
    let product := ratio (mantissa * m) (exponent + e)
    match ofRatio negative product.1 product.2 with
    | infinite _ => none
    | x => some x
  | _ => none

/-- The finite number divided by a positive power of ten of at most 308, which counts as its
nearest number. -/
def divTenPow (negative : Bool) (mantissa : Nat) (exponent : Int) (power : Nat) : Binary64 :=
  match ofRatio false (Nat.pow 10 power) 1 with
  | finite _ m e =>
    let quotient := ratio mantissa (exponent - e)
    ofRatio negative quotient.1 (quotient.2 * m)
  | _ => nan

/-- The natural number nearest to a number, the greater one of two, kept between 0 and a greatest
value. What is no number counts as 0. -/
def toNatClamped (greatest : Nat) : Binary64 → Nat
  | nan => 0
  | infinite negative => if negative then 0 else greatest
  | finite negative mantissa exponent =>
    if negative then 0
    else
      let r := ratio mantissa exponent
      min ((2 * r.1 + r.2) / (2 * r.2)) greatest

end Binary64

end FormLetter
