import SqlCompose.Toml.Value

/-!
# TOML documents

A document is a list of lines that assign values and open tables. A key is assigned once, a table
is opened once, and a table that is complete takes nothing more.
-/

namespace SqlCompose.Toml

/-- How a table came to be. -/
inductive Origin where
  /-- It was opened by its own header. -/
  | header
  /-- It was implied by the header of a table inside it. -/
  | implied
  /-- It was implied by a key with points. -/
  | dotted
deriving DecidableEq

/-- An entry of a document that is still being read. Of the elements of a list of tables the latest
comes first. -/
inductive Item where
  | value (v : Value)
  | table (origin : Origin) (entries : List (String × Item))
  | tables (last : List (String × Item)) (earlier : List (List (String × Item)))

abbrev Entries := List (String × Item)

mutual

/-- The value of a complete entry. -/
def Item.close : Item → Value
  | .value v => v
  | .table _ entries => .table (closeEntries entries)
  | .tables last earlier => .array ((.table (closeEntries last) :: closeTables earlier).reverse)

def closeEntries : List (String × Item) → List (String × Value)
  | [] => []
  | (key, item) :: rest => (key, item.close) :: closeEntries rest

def closeTables : List (List (String × Item)) → List Value
  | [] => []
  | entries :: rest => .table (closeEntries entries) :: closeTables rest

end

namespace Entries

/-- Replaces the entry of a key, or puts a first one at the end. -/
def alter? (key : String) (change : Option Item → Option Item) : Entries → Option Entries
  | [] => (change none).map fun item => [(key, item)]
  | (k, item) :: rest =>
    if k = key then (change (some item)).map fun item => (k, item) :: rest
    else (alter? key change rest).map ((k, item) :: ·)

/-- Adds an entry under a key that has none. -/
def add? (key : String) (item : Item) (entries : Entries) : Option Entries :=
  alter? key (fun | none => some item | some _ => none) entries

/-- Assigns a value to a key with points. The table that takes the value is made by such keys alone,
and so are those on the way, apart from implied ones and the last of a list. -/
def assign? (v : Value) : (path : List String) → Entries → Option Entries
  | [], _ => none
  | [key], entries => add? key (.value v) entries
  | key :: next :: path, entries =>
    alter? key (fun
      | none => (assign? v (next :: path) []).map (.table .dotted)
      | some (.table origin inner) =>
        if origin = .dotted ∨ origin = .implied ∧ path ≠ [] then
          (assign? v (next :: path) inner).map (.table origin)
        else none
      | some (.tables last earlier) =>
        if path ≠ [] then (assign? v (next :: path) last).map (.tables · earlier) else none
      | some (.value _) => none) entries

/-- Changes the table at a path. Missing tables on the way are implied, and of a list of tables the
last one is meant. -/
def within? (change : Entries → Option Entries) : (path : List String) → Entries → Option Entries
  | [], entries => change entries
  | key :: path, entries =>
    alter? key (fun
      | none => (within? change path []).map (.table .implied)
      | some (.table origin inner) => (within? change path inner).map (.table origin)
      | some (.tables last earlier) => (within? change path last).map (.tables · earlier)
      | some (.value _) => none) entries

/-- Opens a table that has not been opened yet. -/
def openTable? (key : String) (entries : Entries) : Option Entries :=
  alter? key (fun
    | none => some (.table .header [])
    | some (.table .implied inner) => some (.table .header inner)
    | some _ => none) entries

/-- Opens one more table of a list. -/
def openElement? (key : String) (entries : Entries) : Option Entries :=
  alter? key (fun
    | none => some (.tables [] [])
    | some (.tables last earlier) => some (.tables [] (last :: earlier))
    | some _ => none) entries

end Entries

/-- A line of a document. -/
inductive Line where
  | assign (path : List String) (v : Value)
  | table (path : List String)
  | element (path : List String)

/-- The entries read so far, and the path of the table that takes assignments. -/
structure Draft where
  entries : Entries := []
  current : List String := []

def Draft.add? (d : Draft) : Line → Option Draft
  | .assign path v => do
    return { d with entries := ← d.entries.within? (Entries.assign? v path) d.current }
  | .table path => do
    let key ← path.getLast?
    return ⟨← d.entries.within? (Entries.openTable? key) path.dropLast, path⟩
  | .element path => do
    let key ← path.getLast?
    return ⟨← d.entries.within? (Entries.openElement? key) path.dropLast, path⟩

/-- The table that the lines of a document make. -/
def ofLines? (lines : List Line) : Option (List (String × Value)) := do
  let draft ← lines.foldlM Draft.add? {}
  return closeEntries draft.entries

/-- The table that the assignments of an inline table make. -/
def inlineTable? (assignments : List (List String × Value)) : Option Value := do
  let entries ← assignments.foldlM (fun entries a => Entries.assign? a.2 a.1 entries) []
  return .table (closeEntries entries)

end SqlCompose.Toml
