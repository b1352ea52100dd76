import FormLetter.Json.Value
import FormLetter.Number.Shortest

/-!
# Writing JSON values

A value is written without blanks. A number that is not finite is written as null.
-/

namespace FormLetter.Json

/-- Four hexadecimal digits. -/
def hexText (n : Nat) : Text :=
  let digits := Nat.toDigits 16 n
  List.replicate (4 - digits.length) '0' ++ digits

/-- A character inside a string. -/
def stringChar (c : Char) : Text :=
  if c = '"' then ['\\', '"']
  else if c = '\\' then ['\\', '\\']
  else if c.toNat < 0x20 then '\\' :: 'u' :: hexText c.toNat
  else [c]

/-- A text as a string. -/
def stringText (t : Text) : Text := '"' :: t.flatMap stringChar ++ ['"']

/-- How numbers with a fraction are written: with an exponent from 10^16 on and below 10^-5. -/
def fractionFormat : Binary64.FractionFormat := ⟨.even, some (-5, 15), true⟩

/-- A number with a fraction or an exponent. -/
def floatText (x : Binary64) : Text :=
  match x with
  | .finite _ _ _ => x.text fractionFormat
  | _ => "null".toList

mutual

/-- A value, written out. -/
def print : Json → Text
  | null => "null".toList
  | bool b => if b then "true".toList else "false".toList
  | integer n => Text.ofInt n
  | float x => floatText x
  | text t => stringText t
  | list [] => "[]".toList
  | list (item :: items) => '[' :: print item ++ printItems items ++ [']']
  | object [] => "\x7b\x7d".toList
  | object ((name, value) :: members) =>
    '\x7b' :: stringText name ++ ':' :: print value ++ printMembers members ++ ['\x7d']

/-- Further items of a list. -/
def printItems : List Json → Text
  | [] => []
  | item :: items => ',' :: print item ++ printItems items

/-- Further members of an object. -/
def printMembers : List (Text × Json) → Text
  | [] => []
  | (name, value) :: members =>
    ',' :: stringText name ++ ':' :: print value ++ printMembers members

end

end FormLetter.Json
