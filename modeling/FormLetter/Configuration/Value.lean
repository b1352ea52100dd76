import FormLetter.Number.Binary64
import FormLetter.Text.Case

/-!
# Configured values

Configuration is a tree: a table holds values under names, and a list holds values in a row. A
value knows where it was set, unless it is a table or a list that entries have made.

Setting a value under a name replaces what was there, with one exception: a table is taken apart,
and each of its entries is set in the table that is there. So a later source changes exactly the
entries that it has.
-/

namespace FormLetter.Configuration

/-- A value without parts. -/
inductive Scalar
  | nothing
  | bool (b : Bool)
  | integer (n : Int)
  | float (x : Binary64)
  | text (t : Text)
  deriving DecidableEq, Repr

/-- A configured value. The origin is the file or the environment that has set it. -/
inductive Value
  | scalar (origin : Option Text) (s : Scalar)
  | list (origin : Option Text) (items : List Value)
  | table (origin : Option Text) (entries : List (Text × Value))

/-- The entries with one of them set. An entry that is new comes last. -/
def putEntry (name : Text) (value : Value) : List (Text × Value) → List (Text × Value)
  | [] => [(name, value)]
  | (n, v) :: rest =>
    if n = name then (name, value) :: rest else (n, v) :: putEntry name value rest

namespace Value

/-- A table without entries. -/
def empty : Value := table none []

/-- The entries of a table; none for other values. -/
def entries : Value → List (Text × Value)
  | table _ es => es
  | _ => []

/-- The items of a list; none for other values. -/
def items : Value → List Value
  | list _ vs => vs
  | _ => []

/-- The entry with a name. -/
def get? (value : Value) (name : Text) : Option Value := value.entries.lookup name

/-- Where a value was set, if that is known. -/
def origin? : Value → Option Text
  | scalar origin _ => origin
  | list origin _ => origin
  | table origin _ => origin

/-- The table with an entry replaced. Another value gives way to a table. -/
def put (value : Value) (name : Text) (new : Value) : Value :=
  match value with
  | table origin es => table origin (putEntry name new es)
  | _ => table none [(name, new)]

mutual

/-- What stands under a name after a new value is set where an old one stood. -/
def overlay (old : Option Value) : Value → Value
  | table _ incoming => overlayEntries (old.getD empty) incoming
  | scalar origin s => scalar origin s
  | list origin vs => list origin vs

/-- A value with entries set in it one after the other. -/
def overlayEntries (target : Value) : List (Text × Value) → Value
  | [] => target
  | (name, new) :: rest =>
    let key := name.lower
    overlayEntries (target.put key (overlay (target.get? key) new)) rest

end

end Value

end FormLetter.Configuration
