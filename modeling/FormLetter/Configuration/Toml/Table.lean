import FormLetter.Configuration.Toml.Atom

/-!
# Tables of TOML

The tables of a file while it is read. How a table has come about decides what may still be added
to it: a key is assigned once, a table has one header, and only lists of tables grow with every
header.
-/

namespace FormLetter.Configuration.Toml

/-- How a table has come about. -/
inductive Cause
  /-- From the header of a table inside it. -/
  | inner
  /-- From its own header. -/
  | header
  /-- From a key with full stops. -/
  | dotted
  /-- Between braces. -/
  | braces
  deriving DecidableEq, Repr

/-- What stands under a key. -/
inductive Node
  | atom (a : Atom)
  | list (items : List Node)
  | table (cause : Cause) (entries : List (Text × Node))
  /-- A list of tables, the last one first. -/
  | tables (last : List (Text × Node)) (others : List (List (Text × Node)))

/-- The entries of a table in the order in which they have come about. -/
abbrev Entries := List (Text × Node)

namespace Entries

/-- The entries with one of them set. A new one comes last. -/
def put (name : Text) (node : Node) : Entries → Entries
  | [] => [(name, node)]
  | (n, old) :: rest => if n = name then (name, node) :: rest else (n, old) :: put name node rest

/-- The entries with a new one, whose name must not be taken. -/
def add? (name : Text) (node : Node) (entries : Entries) : Option Entries :=
  if (entries.lookup name).isSome then none else some (entries ++ [(name, node)])

end Entries

/-! ## Ways into tables -/

/-- A table that a way leads through: its entries, and the node with others in their place. -/
abbrev Passage := Entries × (Entries → Node)

/-- The table behind a node that a header leads through, the last one of a list. -/
def Node.throughHeader? : Node → Option Passage
  | table .braces _ => none
  | table cause entries => some (entries, table cause)
  | tables last others => some (last, (tables · others))
  | _ => none

/-- The table behind a node that a key with full stops leads through: one without a header of its
own, or the last one of a list. The table in which the key ends must come from such a key itself. -/
def Node.throughKey? (ends : Bool) : Node → Option Passage
  | table .dotted entries => some (entries, table .dotted)
  | table .inner entries => if ends then none else some (entries, table .inner)
  | tables last others => if ends then none else some (last, (tables · others))
  | _ => none

/-- The entries after a change in the table to which a header leads. Tables that are missing on the
way are added. -/
def Entries.alongHeader (change : Entries → Option Entries) : List Text → Entries → Option Entries
  | [], entries => change entries
  | name :: path, entries => do
    let table ← ((entries.lookup name).getD (.table .inner [])).throughHeader?
    let inner ← alongHeader change path table.1
    some (entries.put name (table.2 inner))

/-- The entries with a value assigned to a key. Tables that are missing on the way are added. -/
def Entries.assign (node : Node) : List Text → Entries → Option Entries
  | [], _ => none
  | [name], entries => entries.add? name node
  | name :: next :: path, entries => do
    let table ← ((entries.lookup name).getD (.table .dotted [])).throughKey? path.isEmpty
    let inner ← assign node (next :: path) table.1
    some (entries.put name (table.2 inner))

/-! ## Headers -/

/-- The entries with a table opened, which moves to their end. -/
def Entries.openTable (name : Text) (entries : Entries) : Option Entries :=
  match entries.lookup name with
  | none => some (entries ++ [(name, .table .header [])])
  | some (.table .inner inner) =>
    some (entries.filter (fun e => e.1 != name) ++ [(name, .table .header inner)])
  | some _ => none

/-- The entries with one more table of a list opened. -/
def Entries.openItem (name : Text) (entries : Entries) : Option Entries :=
  match entries.lookup name with
  | none => some (entries ++ [(name, .tables [] [])])
  | some (.tables last others) => some (entries.put name (.tables [] (last :: others)))
  | some _ => none

/-! ## Values -/

/-- The name that makes a moment of a table if it comes first. -/
def momentName : Text := "$__toml_private_datetime".toList

/-- The value of a table with these entries, of which `values` are the values. The text of a moment
must spell one; what follows it in the table does not count. -/
def tableValue? (origin : Text) (entries : Entries) (values : Option (List (Text × Value))) :
    Option Value :=
  match entries with
  | [] => values.map (.table (some origin))
  | (name, first) :: _ =>
    if name = momentName then
      match first with
      | .atom (.scalar (.text t)) =>
        (momentOfText? t).map fun m => .scalar (some origin) (.text m)
      | _ => none
    else values.map (.table (some origin))

mutual

/-- The value of a node. -/
def Node.value? (origin : Text) : Node → Option Value
  | .atom (.scalar s) => some (.scalar (some origin) s)
  | .atom (.moment m) => some (.scalar (some origin) (.text m))
  | .list items => (itemValues? origin items).map (.list (some origin))
  | .table _ entries => tableValue? origin entries (entryValues? origin entries)
  | .tables last others => do
    let last ← tableValue? origin last (entryValues? origin last)
    let others ← tableValues? origin others
    some (.list (some origin) (last :: others).reverse)

/-- The values of the items of a list. -/
def itemValues? (origin : Text) : List Node → Option (List Value)
  | [] => some []
  | item :: items => do
    let value ← item.value? origin
    some (value :: (← itemValues? origin items))

/-- The values of entries. -/
def entryValues? (origin : Text) : List (Text × Node) → Option (List (Text × Value))
  | [] => some []
  | (name, node) :: rest => do
    let value ← node.value? origin
    some ((name, value) :: (← entryValues? origin rest))

/-- The values of tables. -/
def tableValues? (origin : Text) : List (List (Text × Node)) → Option (List Value)
  | [] => some []
  | entries :: rest => do
    let value ← tableValue? origin entries (entryValues? origin entries)
    some (value :: (← tableValues? origin rest))

end

end FormLetter.Configuration.Toml
