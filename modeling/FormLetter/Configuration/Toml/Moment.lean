import FormLetter.Calendar
import FormLetter.Configuration.Toml.Lexeme

/-!
# Dates and times in TOML

A moment is a date, a time of day, or both, and then perhaps the distance of the clock from
universal time. It is kept as the text that spells it out: with the letters T and Z in upper case,
without needless digits of the second, and with hours and minutes of the distance.
-/

namespace FormLetter.Configuration.Toml

/-- The greatest values of some fields of a moment. -/
structure MomentLimits where
  hour : Nat
  offsetHour : Nat
  offsetMinute : Nat

/-- The limits of moments that stand in a file as such. -/
def plainLimits : MomentLimits := ⟨23, 23, 59⟩

/-- The limits of moments inside strings. -/
def quotedLimits : MomentLimits := ⟨24, 99, 99⟩

/-- The number that exactly `width` digits denote, if it lies between two bounds. -/
def field? (width least greatest : Nat) (t : Text) : Option (Nat × Text) :=
  let ds := t.take width
  let n := Text.digitsValue ds
  if ds.length = width && ds.all Char.isDigit && least ≤ n && n ≤ greatest then
    some (n, t.drop width)
  else none

/-- A date. -/
def date? (t : Text) : Option (Text × Text) := do
  let (year, rest) ← field? 4 0 9999 t
  let (month, rest) ← field? 2 1 12 (← expect? '-' rest)
  let (_, rest) ← field? 2 1 (Calendar.daysOfMonth year month) (← expect? '-' rest)
  some (t.take 10, rest)

/-- The digits after the point of a second, nine at most, without the zeros at their end. -/
def places (t : Text) : Option (Text × Text) :=
  match t with
  | '.' :: rest =>
    let ds := rest.takeWhile Char.isDigit
    let kept := ((ds.take 9).reverse.dropWhile (· == '0')).reverse
    if ds = [] then none
    else some (if kept = [] then [] else '.' :: kept, rest.dropWhile Char.isDigit)
  | t => some ([], t)

/-- A time of day. -/
def time? (limits : MomentLimits) (t : Text) : Option (Text × Text) := do
  let (_, rest) ← field? 2 0 limits.hour t
  let (_, rest) ← field? 2 0 59 (← expect? ':' rest)
  let (_, rest) ← field? 2 0 60 (← expect? ':' rest)
  let (ds, rest) ← places rest
  some (t.take 8 ++ ds, rest)

/-- The distance of a clock from universal time in minutes, a day at most. -/
def offsetText? (negative : Bool) (minutes : Nat) : Option Text :=
  let sign : Char := if negative && 0 < minutes then '-' else '+'
  if minutes ≤ 24 * 60 then
    some (sign :: Text.padded 2 (minutes / 60) ++ ':' :: Text.padded 2 (minutes % 60))
  else none

/-- The distance of a clock from universal time, if it is given. -/
def offset? (limits : MomentLimits) (t : Text) : Option (Text × Text) :=
  match t with
  | c :: rest =>
    if c = 'Z' ∨ c = 'z' then some (['Z'], rest)
    else if c = '+' ∨ c = '-' then do
      let (hours, rest) ← field? 2 0 limits.offsetHour rest
      let (minutes, rest) ← field? 2 0 limits.offsetMinute (← expect? ':' rest)
      some (← offsetText? (c = '-') (60 * hours + minutes), rest)
    else some ([], t)
  | [] => some ([], [])

/-- A date, a time of day, or both with a letter T or a space between them. -/
def moment? (limits : MomentLimits) (t : Text) : Option (Text × Text) :=
  match date? t with
  | none => time? limits t
  | some (date, c :: rest) =>
    if c = 'T' ∨ c = 't' ∨ (c = ' ' ∧ (rest.head?.map Char.isDigit).getD false) then do
      let (time, rest) ← time? limits rest
      let (offset, rest) ← offset? limits rest
      some (date ++ 'T' :: time ++ offset, rest)
    else some (date, c :: rest)
  | some (date, []) => some (date, [])

/-- The moment that a whole text spells. -/
def momentOfText? (t : Text) : Option Text :=
  match moment? quotedLimits t with
  | some (m, []) => some m
  | _ => none

end FormLetter.Configuration.Toml
