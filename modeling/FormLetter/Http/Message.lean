import FormLetter.Json.Value
import FormLetter.Number.Numeral

/-!
# Requests and responses

The messages of HTTP as far as the service looks at them.
-/

namespace FormLetter.Http

/-- A request. -/
structure Request where
  method : Text
  /-- The path, with a query if there is one, and perhaps with a scheme and a host in front. -/
  target : Text
  /-- Names and values in their order. -/
  headers : List (Text × Text)
  body : List UInt8
  deriving DecidableEq, Repr

/-- The body of a response. -/
inductive Body
  | empty
  | text (t : Text)
  | json (v : Json)

/-- A response. -/
structure Response where
  status : Nat
  /-- Names and values, names in lower case. -/
  headers : List (Text × Text)
  body : Body

/-- Whether a character ends the path. -/
def endsPath (c : Char) : Bool := c == '?' || c == '#'

/-- The target without scheme and host; nothing if it does not begin with them. -/
def afterHost? (target : Text) : Option Text :=
  match target.cut? ':' with
  | some (scheme, '/' :: '/' :: rest) =>
    if scheme.all fun c => c.isAlphanum || c == '+' || c == '-' || c == '.' then
      some (rest.dropWhile fun c => c != '/' && !endsPath c)
    else none
  | _ => none

namespace Request

/-- The path without query and fragment. Behind a host an empty path means the root. -/
def path (r : Request) : Text :=
  match afterHost? r.target with
  | some rest => if (rest.head?.map endsPath).getD true then ['/'] else rest.takeWhile (!endsPath ·)
  | none => r.target.takeWhile (!endsPath ·)

/-- The value of the first header with a name, letter case aside, if it is printable ASCII. -/
def header? (r : Request) (name : Text) : Option Text :=
  match r.headers.find? fun h => h.1.asciiLower = name with
  | some h => if h.2.all fun c => c == '\t' || (' ' ≤ c && c ≤ '~') then some h.2 else none
  | none => none

/-- The number of bytes that the request announces for its body. -/
def contentLength? (r : Request) : Option Nat :=
  (r.header? "content-length".toList).bind Numeral.natural?

end Request

end FormLetter.Http
