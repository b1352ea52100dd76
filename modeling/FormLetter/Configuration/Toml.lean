import FormLetter.Configuration.Toml.Table

/-!
# Configuration files in TOML

A file is a list of lines: headers, which open tables, and assignments of values to keys in the
table that is open.
-/

namespace FormLetter.Configuration.Toml

/-! ## Values -/

mutual

/-- A value at the start of a text. Lists and tables nest `depth` deep at most. -/
def value? : Nat → Nat → Text → Option (Node × Text)
  | 0, _, _ => none
  | fuel + 1, depth, t =>
    match t, depth with
    | '[' :: _, 0 => none
    | '[' :: rest, depth + 1 => (items? fuel depth rest).map fun r => (.list r.1, r.2)
    | '\x7b' :: _, 0 => none
    | '\x7b' :: rest, depth + 1 =>
      match skipGap rest with
      | '\x7d' :: rest => some (.table .braces [], rest)
      | rest => (members? fuel depth [] rest).map fun r => (.table .braces r.1, r.2)
    | t, _ => (atom? t).map fun r => (.atom r.1, r.2)

/-- The items of a list up to its closing bracket. -/
def items? : Nat → Nat → Text → Option (List Node × Text)
  | 0, _, _ => none
  | fuel + 1, depth, t =>
    match skipLines t.length t with
    | ']' :: rest => some ([], rest)
    | t => do
      let (v, rest) ← value? fuel depth t
      match skipLines rest.length rest with
      | ',' :: rest => (items? fuel depth rest).map fun r => (v :: r.1, r.2)
      | ']' :: rest => some ([v], rest)
      | _ => none

/-- The members of a table on one line up to its closing brace, after those read before. -/
def members? : Nat → Nat → Entries → Text → Option (Entries × Text)
  | 0, _, _, _ => none
  | fuel + 1, depth, entries, t => do
    let (key, rest) ← key? t
    let (v, rest) ← value? fuel depth (skipGap (← expect? '=' (skipGap rest)))
    let entries ← entries.assign v key
    match skipGap rest with
    | ',' :: rest => members? fuel depth entries rest
    | '\x7d' :: rest => some (entries, rest)
    | _ => none

end

/-! ## Files -/

/-- What has been read of a file: its entries, and the path of the table that is open. -/
structure Progress where
  entries : Entries := []
  path : List Text := []

/-- Reads a header or an assignment. -/
def line? (p : Progress) (t : Text) : Option (Progress × Text) :=
  match t with
  | '[' :: '[' :: rest => do
    let (key, rest) ← key? rest
    let rest ← lineEnd? (← expect? ']' (← expect? ']' rest))
    let entries ← p.entries.alongHeader (Entries.openItem (key.getLastD [])) key.dropLast
    some (⟨entries, key⟩, rest)
  | '[' :: rest => do
    let (key, rest) ← key? rest
    let rest ← lineEnd? (← expect? ']' rest)
    let entries ← p.entries.alongHeader (Entries.openTable (key.getLastD [])) key.dropLast
    some (⟨entries, key⟩, rest)
  | _ => do
    let (key, rest) ← key? t
    let value := skipGap (← expect? '=' rest)
    let (v, rest) ← value? (2 * value.length + 2) greatestDepth value
    let rest ← lineEnd? rest
    let entries ← p.entries.alongHeader (Entries.assign v key) p.path
    some (⟨entries, p.path⟩, rest)

/-- Reads the lines of a file, blank ones left out. -/
def lines? : Nat → Progress → Text → Option Progress
  | 0, _, _ => none
  | fuel + 1, p, t =>
    match skipLines t.length t with
    | [] => some p
    | t =>
      match line? p t with
      | some (p, rest) => lines? fuel p rest
      | none => none

/-- The entries that a file with a path sets. -/
def read? (path file : Text) : Option (List (Text × Value)) := do
  let p ← lines? (file.length + 1) {} file.withoutMark
  match ← (Node.table .header p.entries).value? path with
  | .table _ entries => some entries
  | _ => none

end FormLetter.Configuration.Toml
