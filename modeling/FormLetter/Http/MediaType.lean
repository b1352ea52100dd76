import FormLetter.Text.Basic

/-!
# Media types

A media type is a type and a subtype, perhaps with parameters after semicolons. A subtype may end
in a plus sign and the name of the format on which it is built.

The name before the plus sign counts as the subtype, so both `application/json` and a subtype of
`application` with the suffix `json` are JSON.
-/

namespace FormLetter.Http

/-- The characters of names and unquoted values. -/
def isTokenChar (c : Char) : Bool :=
  c.isAlphanum || "!#$%&'*+-.^_`|~".toList.contains c

/-- The characters of quoted values. -/
def isQuotableChar (c : Char) : Bool := ' ' ≤ c && c != '\x7f'

/-- A place in the parameters of a media type. -/
inductive ParameterPlace
  /-- Before a name, or at the end. -/
  | start
  | name
  /-- After the equals sign. -/
  | valueStart
  | value
  /-- After an opening quote. -/
  | quotedStart
  | quoted
  /-- After a closing quote. -/
  | afterQuoted
  deriving DecidableEq, Repr

namespace ParameterPlace

/-- The place after one more character, if the character may stand there. -/
def next? : ParameterPlace → Char → Option ParameterPlace
  | start, c => if c = ' ' then some start else if isTokenChar c then some name else none
  | name, c => if c = '=' then some valueStart else if isTokenChar c then some name else none
  | valueStart, c =>
    if c = '"' then some quotedStart else if isTokenChar c then some value else none
  | value, c => if c = ';' then some start else if isTokenChar c then some value else none
  | quotedStart, c => if isQuotableChar c then some quoted else none
  | quoted, c =>
    if c = '"' then some afterQuoted else if isQuotableChar c then some quoted else none
  | afterQuoted, c => if c = ';' then some start else if c = ' ' then some afterQuoted else none

/-- Whether the parameters may end here. -/
def isEnd : ParameterPlace → Bool
  | start | valueStart | value | afterQuoted => true
  | name | quotedStart | quoted => false

end ParameterPlace

/-- Whether a text is a list of parameters. -/
def areParameters (t : Text) : Bool :=
  match t.foldlM ParameterPlace.next? .start with
  | some place => place.isEnd
  | none => false

/-- A subtype without its suffix, and the suffix after the last plus sign but one in front. -/
def cutSuffix (subtype : Text) : Text × Option Text :=
  let suffix := (subtype.reverse.takeWhile (· != '+')).reverse
  match subtype.reverse.dropWhile (· != '+') with
  | _ :: c :: rest => ((c :: rest).reverse, some suffix)
  | _ => (subtype, none)

/-- Whether a text is a media type of JSON. -/
def isJsonType (t : Text) : Bool :=
  match t.cut? '/' with
  | none => false
  | some (type, rest) =>
    let subtype := rest.takeWhile (· != ';')
    let parameters := (rest.dropWhile (· != ';')).drop 1
    let sub := cutSuffix (Text.asciiLower subtype)
    type.all isTokenChar && subtype.all isTokenChar && areParameters parameters &&
      type.asciiLower = "application".toList &&
      (sub.1 = "json".toList || sub.2 = some "json".toList)

end FormLetter.Http
