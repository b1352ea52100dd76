import FormLetter.Configuration.Environment
import FormLetter.Text.Alphanumeric
import FormLetter.Text.Blank

/-!
# Environment files

A file of lines `NAME=text` that add variables to the environment. Quotes, backslashes and comments
are as in a shell, a quoted text may go on over several lines, and a dollar sign puts in the text
of a variable. Variables that are there already stay as they are. Reading stops at the first line
that is no such line; what came before it counts.
-/

namespace FormLetter.Configuration.DotEnv

/-! ## Lines -/

/-- A place in a line, as far as it matters for where the line ends. -/
inductive LinePlace
  | outside
  | afterBlank
  | escaped
  | inStrong
  | inStrongEscaped
  | inWeak
  | inWeakEscaped
  deriving DecidableEq, Repr

/-- The place after one more character; nothing at the start of a comment. -/
def LinePlace.next? : LinePlace → Char → Option LinePlace
  | outside, c =>
    if Text.isBlank c && c != '\n' && c != '\r' then some afterBlank
    else if c = '\\' then some escaped
    else if c = '"' then some inWeak
    else if c = '\'' then some inStrong
    else some outside
  | afterBlank, c =>
    if c = '#' then none
    else if c = '\\' then some escaped
    else if c = '"' then some inWeak
    else if c = '\'' then some inStrong
    else some outside
  | escaped, _ => some outside
  | inStrong, c =>
    if c = '\\' then some inStrongEscaped else if c = '\'' then some outside else some inStrong
  | inStrongEscaped, _ => some inStrong
  | inWeak, c =>
    if c = '\\' then some inWeakEscaped else if c = '"' then some outside else some inWeak
  | inWeakEscaped, _ => some inWeak

/-- The part of a line before a comment and the place after it; no place if a comment follows. -/
def beforeComment (place : LinePlace) : Text → Text × Option LinePlace
  | [] => ([], some place)
  | c :: rest =>
    match place.next? c with
    | none => ([], none)
    | some next =>
      let r := beforeComment next rest
      (c :: r.1, r.2)

/-- The lines of a file with the line feeds that end them. -/
def physicalLines (t : Text) : List Text :=
  let parts := t.split '\n'
  let all := parts.1 :: parts.2
  (all.dropLast.map (· ++ ['\n'])) ++ (all.getLast?.toList.filter fun line => !line.isEmpty)

/-- The line without the line feed, and the carriage return before it, at its end. -/
def withoutLineEnd (t : Text) : Text :=
  match t.reverse with
  | '\n' :: '\r' :: rest => rest.reverse
  | '\n' :: rest => rest.reverse
  | _ => t

/-- The lines to be read, where a quoted text may take several lines of the file. `begun` holds the
lines that belong to the first one. Nothing stands for a line that does not end. -/
def logicalLines (begun : Text) (place : LinePlace) : List Text → List (Option Text)
  | [] => if place = .outside then [] else [none]
  | line :: rest =>
    let whole := begun ++ line
    match Text.trimStart whole with
    | '#' :: _ => some [] :: logicalLines [] .outside rest
    | _ =>
      match beforeComment place line with
      | (kept, none) => some (begun ++ kept) :: logicalLines [] .outside rest
      | (_, some .outside) => some (withoutLineEnd whole) :: logicalLines [] .outside rest
      | (_, some next) => logicalLines whole next rest

/-! ## Texts -/

/-- A place in the text of a variable. -/
inductive TextPlace
  | plain
  | escaped
  | strong
  /-- After a dollar sign, in the name of a variable. -/
  | name (n : Text)
  /-- After a dollar sign and a brace, in the name of a variable. -/
  | bracedName (n : Text)
  /-- After a blank that ends the text. -/
  | ended
  deriving DecidableEq, Repr

/-- The character that stands for a letter after a backslash. -/
def escape? (c : Char) : Option Char :=
  if c = 'n' then some '\n'
  else if c ∈ ['\\', '\'', '"', '$', ' '] then some c
  else none

/-- Reads the rest of a text at a place. `weak` tells whether double quotes are open, and `before`
is what has been read in reverse order. -/
def readText (env : Environment) (weak : Bool) (before : Text) : TextPlace → Text → Option Text
  | .name n, [] =>
    if weak then none else some (((env.get? n).getD []).reverse ++ before).reverse
  | .bracedName _, [] => none
  | .strong, [] => none
  | _, [] => if weak then none else some before.reverse
  | .ended, c :: rest =>
    if c = ' ' ∨ c = '\t' then readText env weak before .ended rest
    else if c = '#' then some before.reverse
    else none
  | .escaped, c :: rest =>
    match escape? c with
    | some e => readText env weak (e :: before) .plain rest
    | none => none
  | .strong, c :: rest =>
    if c = '\'' then readText env weak before .plain rest
    else readText env weak (c :: before) .strong rest
  | .name n, c :: rest =>
    if Text.isAlphanumeric c then readText env weak before (.name (n ++ [c])) rest
    else if c = '\x7b' && n.isEmpty then readText env weak before (.bracedName []) rest
    else
      let before := ((env.get? n).getD []).reverse ++ before
      if c = '$' then readText env weak before (.name []) rest
      else readText env weak (c :: before) .plain rest
  | .bracedName n, c :: rest =>
    if c = '\x7d' then readText env weak (((env.get? n).getD []).reverse ++ before) .plain rest
    else readText env weak before (.bracedName (n ++ [c])) rest
  | .plain, c :: rest =>
    if c = '$' then readText env weak before (.name []) rest
    else if c = '\\' then readText env weak before .escaped rest
    else if weak then
      if c = '"' then readText env false before .plain rest
      else readText env weak (c :: before) .plain rest
    else if c = '\'' then readText env weak before .strong rest
    else if c = '"' then readText env true before .plain rest
    else if c = ' ' ∨ c = '\t' then readText env weak before .ended rest
    else readText env weak (c :: before) .plain rest

/-! ## Assignments -/

/-- The characters of names after the first one. -/
def isNameChar (c : Char) : Bool := c.isAlphanum || c == '_' || c == '.'

/-- A name and the text after it, blanks left out. -/
def name? (t : Text) : Option (Text × Text) :=
  match t with
  | c :: _ =>
    if c.isAlpha || c == '_' then
      some (t.takeWhile isNameChar, Text.trimStart (t.dropWhile isNameChar))
    else none
  | [] => none

/-- A name and the text after the equals sign, blanks left out. The word `export` may precede the
name. -/
def nameAndRest? (t : Text) : Option (Text × Text) :=
  match name? t with
  | none => none
  | some (name, '=' :: rest) => some (name, Text.trimStart rest)
  | some (name, rest) =>
    if name = "export".toList then
      match name? rest with
      | some (name, '=' :: rest) => some (name, Text.trimStart rest)
      | _ => none
    else none

/-- What a line says. -/
inductive Statement
  | nothing
  | assign (name text : Text)
  deriving DecidableEq, Repr

/-- Reads a line. -/
def statement? (env : Environment) (line : Text) : Option Statement :=
  match line.trim with
  | [] => some .nothing
  | '#' :: _ => some .nothing
  | t =>
    match nameAndRest? t with
    | none => none
    | some (name, []) => some (.assign name [])
    | some (name, '#' :: _) => some (.assign name [])
    | some (name, text) => (readText env false [] .plain text).map (.assign name ·)

/-- The environment after some lines. -/
def addLines (env : Environment) : List (Option Text) → Environment
  | [] => env
  | none :: _ => env
  | some line :: rest =>
    match statement? env line with
    | none => env
    | some .nothing => addLines env rest
    | some (.assign name text) => addLines (env.addNew name text) rest

/-- The environment after a file. -/
def load (env : Environment) (file : Text) : Environment :=
  addLines env (logicalLines [] .outside (physicalLines file.withoutMark))

end FormLetter.Configuration.DotEnv
