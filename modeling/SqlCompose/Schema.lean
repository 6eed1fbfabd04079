import SqlCompose.Json.Basic
import SqlCompose.Uuid

/-!
# Rows and schemas

A row is a list of named columns. A schema names the columns of a model with their types, and a row
decodes when it has a fitting value in each of them.
-/

namespace SqlCompose

/-- A row: columns with their values, in order. -/
abbrev Row := List (String × Json)

/-- The objects among JSON values. -/
def Row.ofJsons (values : List Json) : List Row :=
  values.filterMap fun
    | .object members => some members
    | _ => none

inductive ColumnType where
  | uint64
  | uint32
  | float
  | text
  | bool
  | uuid

inductive Cell where
  | uint (n : Nat)
  | float (x : Float)
  | text (s : String)
  | bool (b : Bool)
  | uuid (u : Uuid)

/-- Reads a value as one of a type. Integers have to be in range, and only the floating type takes
both kinds of number. -/
def ColumnType.read? : ColumnType → Json → Option Cell
  | uint64, .integer n => if Json.isUnsigned64 n then some (.uint n.toNat) else none
  | uint32, .integer n => if 0 ≤ n ∧ n < UInt32.size then some (.uint n.toNat) else none
  | float, .integer n => some (.float (Float.ofInt n))
  | float, .float x => some (.float x)
  | text, .string s => some (.text s)
  | bool, .bool b => some (.bool b)
  | uuid, .string s => (Uuid.ofText? s).map .uuid
  | _, _ => none

abbrev Schema := List (String × ColumnType)

/-- Reads every column of a schema; other columns of the row do not matter. -/
def Schema.decode? (schema : Schema) (row : Row) : Option (List Cell) :=
  schema.mapM fun column => (Json.member? column.1 row).bind column.2.read?

end SqlCompose
