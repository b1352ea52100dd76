import FormLetter.Configuration.Value
import FormLetter.Number.Numeral

/-!
# Paths

A path leads to a place in the configuration: a name, then names after full stops and positions in
brackets. In a source, what is no path names an entry of the outermost table as it stands.
-/

namespace FormLetter.Configuration

/-- One step into a table or a list. A negative position counts from the end. -/
inductive PathStep
  | entry (name : Text)
  | position (n : Int)
  deriving DecidableEq, Repr

/-- A path. -/
abbrev Path := List PathStep

/-- Why a text is no path. -/
inductive PathFault
  /-- It does not begin with a name. -/
  | noName
  /-- Brackets hold no digits. -/
  | noDigits
  /-- A position does not fit into 64 bits. -/
  | farPosition
  /-- A character stands where the path cannot go on. -/
  | stray
  deriving DecidableEq, Repr

/-- The fault in words. -/
def PathFault.message : PathFault → Text
  | noName => "IsA".toList
  | noDigits => "Digit".toList
  | farPosition => "Map on Result".toList
  | stray => "Char".toList

namespace Path

/-- The characters of names in paths. -/
def isNameChar (c : Char) : Bool := c.isAlphanum || c == ' ' || c == '_' || c == '-'

/-- A blank inside brackets. -/
def isGap (c : Char) : Bool := c == ' ' || c == '\t'

/-- A position and the text after its closing bracket. The opening bracket has been read. -/
def readPosition (t : Text) : Except PathFault (Int × Text) :=
  let inside := t.dropWhile isGap
  let (sign, unsigned) :=
    match inside with
    | '-' :: rest => (['-'], rest)
    | rest => ([], rest)
  let digits := unsigned.takeWhile Char.isDigit
  if digits.isEmpty then .error .noDigits
  else
    match Numeral.integer? (sign ++ digits), (unsigned.dropWhile Char.isDigit).dropWhile isGap with
    | none, _ => .error .farPosition
    | some n, ']' :: rest => .ok (n, rest)
    | some _, _ => .error .stray

/-- The steps after the first name of a path. -/
def readSteps : Nat → Text → Except PathFault Path
  | _, [] => .ok []
  | 0, _ => .error .stray
  | fuel + 1, c :: rest =>
    if c = '.' then
      let name := rest.takeWhile isNameChar
      if name.isEmpty then .error .stray
      else (readSteps fuel (rest.dropWhile isNameChar)).map (.entry name :: ·)
    else if c = '[' then
      match readPosition rest with
      | .ok (n, rest) => (readSteps fuel rest).map (.position n :: ·)
      | .error fault => .error fault
    else .error .stray

/-- The path that a text spells. -/
def read (t : Text) : Except PathFault Path :=
  let name := t.takeWhile isNameChar
  if name.isEmpty then .error .noName
  else (readSteps t.length (t.dropWhile isNameChar)).map (.entry name :: ·)

/-- The path that a key of a source means. -/
def ofKey (key : Text) : Path :=
  match read key with
  | .ok path => path
  | .error _ => [.entry key]

end Path

namespace Value

/-- The place in a list that a position means. -/
def placeOf (n : Int) (length : Nat) : Nat :=
  if 0 ≤ n then n.toNat else length - n.natAbs

/-- The list with the item at a place changed, filled up with nothing as far as needed. -/
def setPlace (vs : List Value) (place : Nat) (change : Value → Value) : List Value :=
  let filled := vs ++ List.replicate (place + 1 - vs.length) (scalar none .nothing)
  filled.modify place change

/-- The list with the item at a position changed. Another value gives way to a list. -/
def putItem (value : Value) (n : Int) (change : Value → Value) : Value :=
  match value with
  | list origin vs => list origin (setPlace vs (placeOf n vs.length) change)
  | _ => list none (setPlace [] (placeOf n 0) change)

/-- The value with a new one set at a path inside it. -/
def setPath (new : Value) : Path → Value → Value
  | [], _ => new
  | [.entry name], value => value.put name.lower (overlay (value.get? name.lower) new)
  | .entry name :: steps, value =>
    value.put name.lower (setPath new steps ((value.get? name.lower).getD empty))
  | .position n :: steps, value => value.putItem n (setPath new steps)

/-- The value with new ones set in it one after the other. -/
def setAll (value : Value) (assignments : List (Path × Value)) : Value :=
  assignments.foldl (fun v a => setPath a.2 a.1 v) value

/-- The value with the entries of a source set in it. -/
def applySource (value : Value) (source : List (Text × Value)) : Value :=
  value.setAll (source.map fun entry => (Path.ofKey entry.1, entry.2))

end Value

end FormLetter.Configuration
