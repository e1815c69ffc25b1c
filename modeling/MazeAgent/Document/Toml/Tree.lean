import MazeAgent.Document.Value

/-!
# Tables under construction

A TOML text builds its tables piece by piece: by headers, by dotted keys, and by tables inside
other values. How a table came about decides what may still be added to it.

**Results.**
* `Toml.declare?`, `Toml.append?`: what a header does.
* `Toml.assign?`: what a key with a value does.
* `Toml.documentOfFields`: the finished document.
-/

namespace MazeAgent
namespace Toml

/-- How a table came about. -/
inductive Origin where
  /-- It has a header of its own. -/
  | header
  /-- It is named in the header of another table only. -/
  | implied
  /-- It is named in a dotted key. -/
  | dotted
  deriving DecidableEq, Repr

/-- A value or table under construction. -/
inductive Node where
  /-- A finished value. -/
  | value (document : Document)
  | table (origin : Origin) (fields : List (String × Node))
  /-- A list of tables, each with its own header. -/
  | tables (items : List (List (String × Node)))

/-- Fields under construction, in the order of their first mention. -/
abbrev Fields := List (String × Node)

/-- The fields with the node of a name replaced, or added at the end. -/
def update? (name : String) (change : Option Node → Option Node) : Fields → Option Fields
  | [] => (change none).map (fun node => [(name, node)])
  | (other, node) :: rest =>
      if other = name then
        (change (some node)).map (fun node => (other, node) :: rest)
      else
        (update? name change rest).map ((other, node) :: ·)

/-- The fields with a change made inside the table that a header path names. -/
def within? : (path : List String) → (Fields → Option Fields) → Fields → Option Fields
  | [], change, fields => change fields
  | name :: path, change, fields =>
      update? name (fun
        | none => (within? path change []).map (Node.table .implied)
        | some (.table origin inner) => (within? path change inner).map (Node.table origin)
        | some (.tables items) =>
            match items.getLast? with
            | some last =>
                (within? path change last).map (fun last => Node.tables (items.dropLast ++ [last]))
            | none => none
        | some (.value _) => none) fields

/-- The fields with a header for one table. -/
def declare? (path : List String) (fields : Fields) : Option Fields :=
  match path.getLast? with
  | none => none
  | some name =>
      within? path.dropLast (update? name (fun
        | none => some (.table .header [])
        | some (.table .implied inner) => some (.table .header inner)
        | some _ => none)) fields

/-- The fields with a header for one more table of a list. -/
def append? (path : List String) (fields : Fields) : Option Fields :=
  match path.getLast? with
  | none => none
  | some name =>
      within? path.dropLast (update? name (fun
        | none => some (.tables [[]])
        | some (.tables items) => some (.tables (items ++ [[]]))
        | some _ => none)) fields

/-- The fields with a value for a key that does not occur yet. -/
def insert? (name : String) (document : Document) (fields : Fields) : Option Fields :=
  update? name (fun
    | none => some (.value document)
    | some _ => none) fields

/-- The fields of a table with a value for a dotted key. The table that holds the value has to
stem from a dotted key itself. -/
def assignDotted? (document : Document) :
    (origin : Origin) → List String → Fields → Option Fields
  | _, [], _ => none
  | origin, [name], fields => if origin = .dotted then insert? name document fields else none
  | _, name :: path, fields =>
      update? name (fun
        | none => (assignDotted? document .dotted path []).map (Node.table .dotted)
        | some (.table .header _) => none
        | some (.table origin inner) =>
            (assignDotted? document origin path inner).map (Node.table origin)
        | some _ => none) fields

/-- The fields of the current table with a value for a key. -/
def assign? (document : Document) (path : List String) (fields : Fields) : Option Fields :=
  match path with
  | [name] => insert? name document fields
  | _ => assignDotted? document .header path fields

mutual

def documentOf : Node → Document
  | .value document => document
  | .table _ fields => .table (documentOfFields fields)
  | .tables items => .list (documentsOf items)

def documentOfFields : List (String × Node) → List (String × Document)
  | [] => []
  | (name, node) :: rest => (name, documentOf node) :: documentOfFields rest

def documentsOf : List (List (String × Node)) → List Document
  | [] => []
  | fields :: rest => .table (documentOfFields fields) :: documentsOf rest

end

end Toml
end MazeAgent
