import FormLetter.Json.Lexeme

/-!
# Reading JSON values

A value with everything in it, or the bytes after a value that nobody asks for. The inside of a
value that is kept has to be sound to the last surrogate and may be nested up to a limit; of a
value that is skipped only the form counts.
-/

namespace FormLetter.Json

/-- The bytes after a colon that blanks may precede. -/
def colon? (bytes : List UInt8) : Option (List UInt8) :=
  match skipBlanks bytes with
  | 0x3A :: rest => some rest
  | _ => none

/-! ## Values -/

mutual

/-- The value at the start of some bytes. Lists and objects may be nested `depth` deep. -/
def valueAt? (depth : Nat) : Nat → List UInt8 → Option (Json × List UInt8)
  | 0, _ => none
  | fuel + 1, bytes =>
    match skipBlanks bytes with
    | 0x22 :: rest => (string? rest).map fun r => (.text r.1, r.2)
    | 0x5B :: rest =>
      if depth = 0 then none
      else
        match skipBlanks rest with
        | 0x5D :: rest => some (.list [], rest)
        | rest => (itemsAt? (depth - 1) fuel rest).map fun r => (.list r.1, r.2)
    | 0x7B :: rest =>
      if depth = 0 then none
      else
        match skipBlanks rest with
        | 0x7D :: rest => some (.object [], rest)
        | rest => (membersAt? (depth - 1) fuel rest).map fun r => (.object r.1, r.2)
    | 0x6E :: rest => (word? "ull" rest).map (Json.null, ·)
    | 0x74 :: rest => (word? "rue" rest).map (Json.bool true, ·)
    | 0x66 :: rest => (word? "alse" rest).map (Json.bool false, ·)
    | bytes => do
      let (parts, rest) ← numeral? bytes
      some (← parts.value?, rest)

/-- The items of a list, of which at least one has to follow. -/
def itemsAt? (depth : Nat) : Nat → List UInt8 → Option (List Json × List UInt8)
  | 0, _ => none
  | fuel + 1, bytes => do
    let (item, rest) ← valueAt? depth fuel bytes
    match skipBlanks rest with
    | 0x2C :: rest => (itemsAt? depth fuel rest).map fun r => (item :: r.1, r.2)
    | 0x5D :: rest => some ([item], rest)
    | _ => none

/-- The members of an object, of which at least one has to follow. -/
def membersAt? (depth : Nat) : Nat → List UInt8 → Option (List (Text × Json) × List UInt8)
  | 0, _ => none
  | fuel + 1, bytes =>
    match skipBlanks bytes with
    | 0x22 :: rest => do
      let (name, rest) ← string? rest
      let (value, rest) ← valueAt? depth fuel (← colon? rest)
      match skipBlanks rest with
      | 0x2C :: rest => (membersAt? depth fuel rest).map fun r => ((name, value) :: r.1, r.2)
      | 0x7D :: rest => some ([(name, value)], rest)
      | _ => none
    | _ => none

end

/-- How deep lists and objects may be nested. -/
def maxDepth : Nat := 127

/-- The value that some bytes are written for, blanks around it aside. -/
def read? (bytes : List UInt8) : Option Json :=
  match valueAt? maxDepth (2 * bytes.length + 2) bytes with
  | some (value, rest) => if (skipBlanks rest).isEmpty then some value else none
  | none => none

/-! ## Skipped values -/

/-- The bytes after the values and members that are still open. `frames` holds, from the inside
out, whether each of them is an object; `ready` says that a value has just ended. -/
def skipOpen? : Nat → List Bool → Bool → List UInt8 → Option (List UInt8)
  | 0, _, _, _ => none
  | _ + 1, [], true, bytes => some bytes
  | fuel + 1, frame :: frames, true, bytes =>
    match skipBlanks bytes with
    | 0x2C :: rest => skipOpen? fuel (frame :: frames) false rest
    | 0x5D :: rest => if frame then none else skipOpen? fuel frames true rest
    | 0x7D :: rest => if frame then skipOpen? fuel frames true rest else none
    | _ => none
  | fuel + 1, frames, false, bytes => do
    let bytes ←
      match frames with
      | true :: _ =>
        match skipBlanks bytes with
        | 0x22 :: rest => do colon? (← skipString? rest)
        | _ => none
      | _ => some bytes
    match skipBlanks bytes with
    | 0x22 :: rest => skipOpen? fuel frames true (← skipString? rest)
    | 0x5B :: rest =>
      match skipBlanks rest with
      | 0x5D :: rest => skipOpen? fuel frames true rest
      | rest => skipOpen? fuel (false :: frames) false rest
    | 0x7B :: rest =>
      match skipBlanks rest with
      | 0x7D :: rest => skipOpen? fuel frames true rest
      | rest => skipOpen? fuel (true :: frames) false rest
    | 0x6E :: rest => skipOpen? fuel frames true (← word? "ull" rest)
    | 0x74 :: rest => skipOpen? fuel frames true (← word? "rue" rest)
    | 0x66 :: rest => skipOpen? fuel frames true (← word? "alse" rest)
    | bytes => skipOpen? fuel frames true (← numeral? bytes).2

/-- The bytes after the value at the start of some bytes. -/
def skipValue? (bytes : List UInt8) : Option (List UInt8) :=
  skipOpen? (bytes.length + 2) [] false bytes

end FormLetter.Json
