import FormLetter.Configuration.Toml.Moment
import FormLetter.Configuration.Value
import FormLetter.Number.Numeral

/-!
# Values without parts in TOML

Truth values, numerals, strings and moments at the start of a text.
-/

namespace FormLetter.Configuration.Toml

/-! ## Numerals -/

/-- The digits of a numeral in which single underscores may stand between two digits. -/
def digits? (isDigit : Char → Bool) (t : Text) : Option Text :=
  let parts := t.split '_'
  let groups := parts.1 :: parts.2
  if groups.all fun g => !g.isEmpty && g.all isDigit then some groups.flatten else none

/-- The digits of a whole number, which has no needless zero in front. -/
def wholeDigits? (t : Text) : Option Text :=
  match digits? Char.isDigit t with
  | some ('0' :: _ :: _) => none
  | ds => ds

/-- The value of a digit. -/
def digitValue (c : Char) : Nat :=
  if c.isDigit then c.toNat - '0'.toNat else c.toLower.toNat - 'a'.toNat + 10

/-- An integer with a base in front. -/
def basedInteger? (base : Nat) (isDigit : Char → Bool) (t : Text) : Option Scalar :=
  match digits? isDigit t with
  | some ds =>
    let n := ds.foldl (fun n c => base * n + digitValue c) 0
    if 2 * n < UInt64.size then some (.integer n) else none
  | none => none

/-- A sign in front of a numeral, and the numeral without it. -/
def signAndRest : Text → Text × Text
  | '+' :: rest => (['+'], rest)
  | '-' :: rest => (['-'], rest)
  | t => ([], t)

/-- A decimal integer. -/
def integer? (t : Text) : Option Scalar :=
  let (sign, rest) := signAndRest t
  match wholeDigits? rest with
  | some ds => (Numeral.integer? (sign ++ ds)).map .integer
  | none => none

/-- The fraction that a numeral denotes. One that is too great for a number is refused. -/
def readFraction? (numeral : Text) : Option Scalar :=
  match Numeral.fraction? numeral with
  | some (.infinite false) => none
  | some x => some (.float x)
  | none => none

/-- A fraction: digits after a point, an exponent, or both. -/
def fraction? (t : Text) : Option Scalar :=
  let (sign, rest) := signAndRest t
  if rest = "inf".toList ∨ rest = "nan".toList then (Numeral.fraction? t).map .float
  else
    let isExponent (c : Char) : Bool := c == 'e' || c == 'E'
    let mantissa := rest.takeWhile fun c => !isExponent c
    let exponent : Option Text :=
      match rest.dropWhile fun c => !isExponent c with
      | [] => some []
      | _ :: e =>
        let (sign, ds) := signAndRest e
        (digits? Char.isDigit ds).map fun ds => 'e' :: sign ++ ds
    let numeral : Option Text :=
      match Text.cut? '.' mantissa with
      | some (whole, places) => do
        some ((← wholeDigits? whole) ++ '.' :: (← digits? Char.isDigit places))
      | none => wholeDigits? mantissa
    match numeral, exponent with
    | some n, some e => readFraction? (sign ++ n ++ e)
    | _, _ => none

/-! ## Atoms -/

/-- The characters of truth values and numerals. -/
def isWordChar (c : Char) : Bool := c.isAlphanum || c == '_' || c == '+' || c == '-' || c == '.'

/-- The scalar that a word stands for. -/
def scalarOfWord? (word : Text) : Option Scalar :=
  match word with
  | '0' :: 'x' :: ds =>
    basedInteger? 16 (fun c => c.isDigit || ('a' ≤ c.toLower && c.toLower ≤ 'f')) ds
  | '0' :: 'o' :: ds => basedInteger? 8 (fun c => '0' ≤ c && c ≤ '7') ds
  | '0' :: 'b' :: ds => basedInteger? 2 (fun c => c == '0' || c == '1') ds
  | _ =>
    if word = "true".toList then some (.bool true)
    else if word = "false".toList then some (.bool false)
    else
      match integer? word with
      | some s => some s
      | none =>
        if word.any fun c => c == '.' || c == 'e' || c == 'E' || c == 'n' then fraction? word
        else none

/-- A value without parts. -/
inductive Atom
  | scalar (s : Scalar)
  | moment (m : Text)
  deriving DecidableEq, Repr

/-- The atom at the start of a text. -/
def atom? (t : Text) : Option (Atom × Text) :=
  match t with
  | '"' :: _ => (string? t).map fun r => (.scalar (.text r.1), r.2)
  | '\'' :: _ => (string? t).map fun r => (.scalar (.text r.1), r.2)
  | _ =>
    match moment? plainLimits t with
    | some (m, rest) => some (.moment m, rest)
    | none =>
      (scalarOfWord? (t.takeWhile isWordChar)).map fun s => (.scalar s, t.dropWhile isWordChar)

end FormLetter.Configuration.Toml
