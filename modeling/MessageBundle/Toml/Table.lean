import MessageBundle.Data.Basic
import MessageBundle.Text.KeyOrder

/-!
# Tables of a TOML document

The tables of a document grow while it is read. How a table came about decides
what may still be added to it: a table under a header is defined once, a table
made on the way to another one may still get a header, and a table made by dotted
keys grows by dotted keys alone. A table written as a value is finished.

## Main definitions

* `Table` — a table under construction
* `Table.update?` — a table changed at the end of a path
* `Table.assign?`, `define?`, `append?` — what lines of a document do to a table
-/

namespace MessageBundle.Toml

/-- How a table came about. -/
inductive Origin
  /-- It has a header, or it is the whole document. -/
  | header
  /-- It was made on the way to a table with a header. -/
  | implied
  /-- It was made by a dotted key. -/
  | dotted
  deriving DecidableEq, Repr

/-- What stands under a key: a finished value, a table, or the tables of
headers in double brackets, the last one first. -/
inductive Node
  | value (d : Data TextFault)
  | table (origin : Origin) (members : List (String × Node))
  | tables (elements : List (List (String × Node)))

/-- A table under construction. -/
structure Table where
  origin : Origin
  members : List (String × Node)

namespace Table

/-- A table with a header and no members. -/
def empty : Table := ⟨.header, []⟩

/-- What stands under a key. -/
def get? (t : Table) (key : String) : Option Node := t.members.lookup key

/-- The table with a node under a key, in the place of an older one. -/
def set (t : Table) (key : String) (node : Node) : Table :=
  { t with members := (key, node) :: t.members.filter fun member => member.1 ≠ key }

/-- The table changed by `change` at the end of a path. Tables that are missing
on the way are made. A dotted key leads through no table that has a header. -/
def update? (isDotted : Bool) (change : Table → Option Table) : List String → Table → Option Table
  | [], t => change t
  | key :: path, t =>
    match t.get? key with
    | none => do
      let child ← update? isDotted change path ⟨if isDotted then .dotted else .implied, []⟩
      return t.set key (.table child.origin child.members)
    | some (.table origin members) =>
      if isDotted ∧ origin = .header then none
      else do
        let child ← update? isDotted change path ⟨origin, members⟩
        return t.set key (.table child.origin child.members)
    | some (.tables (last :: others)) => do
      let child ← update? isDotted change path ⟨.header, last⟩
      return t.set key (.tables (child.members :: others))
    | some (.tables []) => none
    | some (.value _) => none

/-- The node at the end of a path, by way of the last tables in double brackets. -/
def find? : List String → String → Table → Option Node
  | [], key, t => t.get? key
  | first :: path, key, t =>
    match t.get? first with
    | some (.table origin members) => find? path key ⟨origin, members⟩
    | some (.tables (last :: _)) => find? path key ⟨.header, last⟩
    | _ => none

/-- A value put under a key that is free. -/
def insert? (key : String) (d : Data TextFault) (t : Table) : Option Table :=
  match t.get? key with
  | some _ => none
  | none => some (t.set key (.value d))

/-- A value put under a dotted key. A table reached by dots has to be one that
was made by dots. -/
def assign? (path : List String) (key : String) (d : Data TextFault) (t : Table) : Option Table :=
  t.update? true
    (fun parent => if path ≠ [] ∧ parent.origin ≠ .dotted then none else parent.insert? key d) path

/-- The table that a header opens: a new one, or one that was only implied. -/
def opened? (path : List String) (key : String) (t : Table) : Option Table :=
  match t.find? path key with
  | none => some empty
  | some (.table .implied members) => some ⟨.header, members⟩
  | some _ => none

/-- A table that a header opened, put in its place. -/
def define? (t : Table) (path : List String) (key : String) (child : Table) : Option Table :=
  t.update? false (fun parent => some (parent.set key (.table .header child.members))) path

/-- A table that a header in double brackets opened, put behind its predecessors. -/
def append? (t : Table) (path : List String) (key : String) (child : Table) : Option Table :=
  t.update? false
    (fun parent =>
      match parent.get? key with
      | none => some (parent.set key (.tables [child.members]))
      | some (.tables elements) => some (parent.set key (.tables (child.members :: elements)))
      | some _ => none)
    path

end Table

/-! ### Finished tables -/

mutual

/-- A node as data; members are in the order of their keys. -/
def Node.toData : Node → Data TextFault
  | .value d => d
  | .table _ members => .ofMembers (membersToData members)
  | .tables elements => .ofList (tablesToData elements).reverse

/-- Members as data, in the order of their keys. -/
def membersToData : List (String × Node) → List (String × Data TextFault)
  | [] => []
  | (key, node) :: rest => Text.insertByKey (key, node.toData) (membersToData rest)

/-- Tables as data, in the order given. -/
def tablesToData : List (List (String × Node)) → List (Data TextFault)
  | [] => []
  | members :: rest => .ofMembers (membersToData members) :: tablesToData rest

end

/-- A table as data. -/
def Table.toData (t : Table) : Data TextFault := .ofMembers (membersToData t.members)

end MessageBundle.Toml
