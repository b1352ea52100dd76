import FormLetter.Text.Basic

/-!
# The lexemes of TOML

Blanks, comments, strings and keys at the start of a text. Each reader gives what it has read and
the text after it.
-/

namespace FormLetter.Configuration.Toml

/-! ## Blanks and line ends -/

/-- The text after a character. -/
def expect? (c : Char) : Text → Option Text
  | d :: rest => if d = c then some rest else none
  | [] => none

/-- A space or a tab. -/
def isGap (c : Char) : Bool := c == ' ' || c == '\t'

/-- The text without the spaces and tabs at its start. -/
def skipGap (t : Text) : Text := t.dropWhile isGap

/-- Whether a character may stand in a comment or a string on one line. -/
def isVisible (c : Char) : Bool := c == '\t' || (0x20 ≤ c.toNat && c != '\x7f')

/-- The text after a line end. -/
def newline? : Text → Option Text
  | '\n' :: rest => some rest
  | '\r' :: '\n' :: rest => some rest
  | _ => none

/-- The text after a comment, if there is one. -/
def skipComment : Text → Text
  | '#' :: rest => rest.dropWhile isVisible
  | t => t

/-- The text after the end of a line, before which a comment may stand. -/
def lineEnd? (t : Text) : Option Text :=
  match skipComment (skipGap t) with
  | [] => some []
  | rest => newline? rest

/-- The text without the blanks, comments and line ends at its start. -/
def skipLines : Nat → Text → Text
  | 0, t => t
  | fuel + 1, t =>
    let rest := skipComment (skipGap t)
    match newline? rest with
    | some rest => skipLines fuel rest
    | none => rest

/-! ## Strings -/

/-- The character that hexadecimal digits stand for. -/
def codePoint? (digits : Text) : Option Char :=
  let value? (c : Char) : Option Nat :=
    if c.isDigit then some (c.toNat - '0'.toNat)
    else if 'a' ≤ c && c ≤ 'f' then some (c.toNat - 'a'.toNat + 10)
    else if 'A' ≤ c && c ≤ 'F' then some (c.toNat - 'A'.toNat + 10)
    else none
  match digits.foldlM (fun n c => (value? c).map (16 * n + ·)) 0 with
  | some n => if n.isValidChar then some (Char.ofNat n) else none
  | none => none

/-- The character that an escape stands for, and the text after it. The backslash has been read. -/
def escape? : Text → Option (Char × Text)
  | 'b' :: rest => some ('\x08', rest)
  | 't' :: rest => some ('\t', rest)
  | 'n' :: rest => some ('\n', rest)
  | 'f' :: rest => some ('\x0c', rest)
  | 'r' :: rest => some ('\r', rest)
  | '"' :: rest => some ('"', rest)
  | '\\' :: rest => some ('\\', rest)
  | 'u' :: a :: b :: c :: d :: rest => (codePoint? [a, b, c, d]).map (·, rest)
  | 'U' :: a :: b :: c :: d :: e :: f :: g :: h :: rest =>
    (codePoint? [a, b, c, d, e, f, g, h]).map (·, rest)
  | _ => none

/-- A string on one line. `quote` ends it, and only double quotes allow escapes. -/
def shortString? (quote : Char) (before : Text) : Nat → Text → Option (Text × Text)
  | 0, _ => none
  | fuel + 1, t =>
    match t with
    | [] => none
    | c :: rest =>
      if c = quote then some (before.reverse, rest)
      else if c = '\\' && quote = '"' then
        match escape? rest with
        | some (e, rest) => shortString? quote (e :: before) fuel rest
        | none => none
      else if isVisible c then shortString? quote (c :: before) fuel rest
      else none

/-- The text without the blanks and line ends at its start. -/
def skipBlankLines : Text → Text
  | '\n' :: rest => skipBlankLines rest
  | '\r' :: '\n' :: rest => skipBlankLines rest
  | c :: rest => if isGap c then skipBlankLines rest else c :: rest
  | [] => []

/-- The text after a backslash that ends a line, and after the blanks and line ends that follow. -/
def lineContinuation? (t : Text) : Option Text := (newline? (skipGap t)).map skipBlankLines

/-- A string over several lines. Three quotes end it; up to two more belong to it. -/
def longString? (quote : Char) (before : Text) : Nat → Text → Option (Text × Text)
  | 0, _ => none
  | fuel + 1, t =>
    match t with
    | [] => none
    | c :: rest =>
      let quotes := (t.takeWhile (· == quote)).length
      if 3 ≤ quotes then
        let inside := min (quotes - 3) 2
        some (before.reverse ++ List.replicate inside quote, t.drop (inside + 3))
      else if c = '\\' && quote = '"' then
        match lineContinuation? rest with
        | some rest => longString? quote before fuel rest
        | none =>
          match escape? rest with
          | some (e, rest) => longString? quote (e :: before) fuel rest
          | none => none
      else
        match newline? t with
        | some rest => longString? quote ('\n' :: before) fuel rest
        | none => if isVisible c then longString? quote (c :: before) fuel rest else none

/-- A string of any kind. -/
def string? (t : Text) : Option (Text × Text) :=
  match t with
  | '"' :: '"' :: '"' :: rest => longString? '"' [] t.length ((newline? rest).getD rest)
  | '\'' :: '\'' :: '\'' :: rest => longString? '\'' [] t.length ((newline? rest).getD rest)
  | '"' :: rest => shortString? '"' [] t.length rest
  | '\'' :: rest => shortString? '\'' [] t.length rest
  | _ => none

/-! ## Keys -/

/-- The characters of bare keys. -/
def isKeyChar (c : Char) : Bool := c.isAlphanum || c == '_' || c == '-'

/-- A key without full stops. -/
def simpleKey? (t : Text) : Option (Text × Text) :=
  match t with
  | '"' :: rest => shortString? '"' [] t.length rest
  | '\'' :: rest => shortString? '\'' [] t.length rest
  | _ =>
    let key := t.takeWhile isKeyChar
    if key = [] then none else some (key, t.dropWhile isKeyChar)

/-- How many names a key has at most, and how deep lists and tables in braces nest at most. -/
def greatestDepth : Nat := 79

/-- Simple keys between full stops. -/
def keyParts? : Nat → Text → Option (List Text × Text)
  | 0, _ => none
  | fuel + 1, t =>
    match simpleKey? (skipGap t) with
    | none => none
    | some (first, rest) =>
      match skipGap rest with
      | '.' :: rest => (keyParts? fuel rest).map fun r => (first :: r.1, r.2)
      | rest => some ([first], rest)

/-- A key: the names that lead to a value, at least one. -/
def key? (t : Text) : Option (List Text × Text) :=
  (keyParts? t.length t).filter fun r => r.1.length ≤ greatestDepth

end FormLetter.Configuration.Toml
