import P4Control.Toml.Item

namespace P4Control.Toml

/-!
# Documents

What the items of a document say together: a table, which a document may define only once
in each of its parts.

* `openTable`, `openElement` — what a header does to the table that holds its last key.
* `Draft` — a document under construction, `Draft.add` — one more item.
* `parse` — the fields of a whole document, given as text.
-/

/-- Applies `change` to the entries of the table at a path.  Tables that are missing on the
way come into being as implied ones; an array of tables stands for its last element. -/
def descend (change : Entries → Option Entries) : Path → Entries → Option Entries
  | [], entries => change entries
  | key :: path, entries =>
    match Directory.findIn key entries with
    | none =>
      (descend change path []).map fun inner => Directory.insertIn key (.table .implied inner) entries
    | some (.table origin inner) =>
      (descend change path inner).map fun inner => Directory.insertIn key (.table origin inner) entries
    | some (.tables finished last) =>
      (descend change path last).map fun last => Directory.insertIn key (.tables finished last) entries
    | some (.value _) => none

/-- Opens the table of a key: a new one, or one that was only implied before. -/
def openTable (key : String) (entries : Entries) : Option Entries :=
  match Directory.findIn key entries with
  | none => some (Directory.insertIn key (.table .header []) entries)
  | some (.table .implied inner) => some (Directory.insertIn key (.table .header inner) entries)
  | some _ => none

/-- Opens a further element of the array of tables of a key. -/
def openElement (key : String) (entries : Entries) : Option Entries :=
  match Directory.findIn key entries with
  | none => some (Directory.insertIn key (.tables [] []) entries)
  | some (.tables finished last) =>
    some (Directory.insertIn key (.tables (finished ++ [.table (Node.finishEntries last)]) []) entries)
  | some _ => none

/-- Applies a header: the last part of its path is opened in the table that the parts
before it lead to. -/
def applyHeader (opening : String → Entries → Option Entries) (path : Path)
    (entries : Entries) : Option Entries := do
  let key ← path.getLast?
  descend (opening key) path.dropLast entries

/-- A document under construction. -/
structure Draft where
  /-- The outermost table. -/
  root : Entries := []
  /-- The path of the table that entries go to. -/
  current : Path := []

/-- Takes in one more item, if it does not define something a second time. -/
def Draft.add (draft : Draft) : Item → Option Draft
  | .table path => (applyHeader openTable path draft.root).map fun root => ⟨root, path⟩
  | .element path => (applyHeader openElement path draft.root).map fun root => ⟨root, path⟩
  | .entry path value =>
    (descend (assign value path) draft.current draft.root).map fun root => { draft with root }

/-- The fields that items define together. -/
def fieldsOf? (items : List Item) : Option Fields :=
  (items.foldlM Draft.add {}).map fun draft => Node.finishEntries draft.root

/-- The fields of a document, unless its text is malformed. -/
def parse (text : String) : Option Fields := do
  let items ← readItems text.toList
  fieldsOf? items

end P4Control.Toml
