import SqlCompose.Table.Name
import SqlCompose.Text.Blank

/-!
# Table attributes

A table is described by attributes with entries, of which only those of the path `table` count.
A later entry replaces an earlier one, and the first bad entry is the answer.
-/

namespace SqlCompose.TableAttributes

/-- What is written after the key of an entry. -/
inductive Entry where
  | bare
  | text (s : String)
  | other

/-- An attribute with its entries in order. -/
structure Attribute where
  path : String
  entries : List (String × Entry)

/-- What the attributes say about a table. -/
structure Info where
  name : String
  engine : Option String
deriving DecidableEq

inductive Fault where
  | unknownKey
  | missingValue
  | notText
  | missingName
  | badName (name : String) (reason : TableName.Fault)
  | emptyEngine
deriving DecidableEq

def Fault.message : Fault → String
  | unknownKey => "unknown table attribute, expected `name` or `engine`"
  | missingValue => "expected `=`"
  | notText => "expected string literal"
  | missingName =>
    "table attribute is required: add #[table(name = \"table_name\")] to your struct"
  | badName name reason => "Invalid table name '" ++ name ++ "': " ++ reason.message
  | emptyEngine => "engine cannot be empty"

/-- The entries read so far. -/
structure Draft where
  name : Option String := none
  engine : Option String := none

def Entry.text? : Entry → Except Fault String
  | bare => .error .missingValue
  | text s => .ok s
  | other => .error .notText

def Draft.add (d : Draft) (key : String) (entry : Entry) : Except Fault Draft :=
  if key = "name" then return { d with name := some (← entry.text?) }
  else if key = "engine" then return { d with engine := some (← entry.text?) }
  else .error .unknownKey

/-- Adds the entries of an attribute one by one. -/
def Draft.addAll (d : Draft) (a : Attribute) : Except Fault Draft :=
  a.entries.foldlM (fun d entry => d.add entry.1 entry.2) d

/-- Checks what was read: the name is there, the name is valid, the engine is not blank. -/
def Draft.info (d : Draft) : Except Fault Info :=
  match d.name with
  | none => .error .missingName
  | some name =>
    match TableName.check name with
    | .error reason => .error (.badName name reason)
    | .ok () =>
      if d.engine.any fun e => Text.trim e = "" then .error .emptyEngine
      else .ok ⟨name, d.engine⟩

/-- Reads the attributes that count one after the other, and checks what they say together. -/
def read (attributes : List Attribute) : Except Fault Info := do
  let counting := attributes.filter fun a => a.path = "table"
  let draft ← counting.foldlM Draft.addAll {}
  draft.info

end SqlCompose.TableAttributes
