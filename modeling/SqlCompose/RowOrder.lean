import SqlCompose.Error
import SqlCompose.Key

/-!
# Row orders

An ordered object of fields and directions, which may hold further objects. It is flattened into
paths with directions.
-/

namespace SqlCompose

inductive Direction where
  | asc
  | desc
deriving DecidableEq

namespace Direction

def token : Direction → String
  | asc => "ASC"
  | desc => "DESC"

/-- One is ascending and minus one descending. -/
def ofNumber (n : Int) : Except QueryError Direction :=
  if n = 1 then .ok asc
  else if n = -1 then .ok desc
  else .error (.invalidSort (.direction n))

/-- The words for the directions, in any ASCII letter case. -/
def ofWord? (s : String) : Option Direction :=
  let word := s.toList.map Char.toLower
  if word = "asc".toList then some asc
  else if word = "desc".toList then some desc
  else none

/-- The direction of a field that is no object. -/
def ofJson (field : String) : Json → Except QueryError Direction
  | .integer n =>
    if Json.isSigned64 n then ofNumber n else .error (.invalidSort (.notInteger field))
  | .float _ => .error (.invalidSort (.notInteger field))
  | .string s =>
    match ofWord? s with
    | some d => .ok d
    | none => .error (.invalidSort (.unknownDirection s field))
  | j => .error (.invalidSort (.unsupported j field))

end Direction

/-- An ordered sort specification. -/
inductive RowOrder where
  | empty
  | field (name : String) (direction : Direction) (rest : RowOrder)
  | nested (name : String) (inner : RowOrder) (rest : RowOrder)

namespace RowOrder

def append : RowOrder → RowOrder → RowOrder
  | empty, b => b
  | field name d rest, b => field name d (append rest b)
  | nested name inner rest, b => nested name inner (append rest b)

instance : Append RowOrder := ⟨append⟩

def withField (s : RowOrder) (name : String) (d : Direction) : RowOrder :=
  s ++ field name d empty

def withNested (s : RowOrder) (name : String) (inner : RowOrder) : RowOrder :=
  s ++ nested name inner empty

def isEmpty : RowOrder → Bool
  | empty => true
  | _ => false

mutual

/-- The specification that a JSON object stands for; other values stand for none. -/
def ofObject? : Json → Option (Except QueryError RowOrder)
  | .object members => some (ofMembers members)
  | _ => none

/-- The members of a JSON object as fields. The first bad direction is the answer. -/
def ofMembers : List (String × Json) → Except QueryError RowOrder
  | [] => .ok empty
  | (name, j) :: rest =>
    match ofObject? j with
    | some inner => do return nested name (← inner) (← ofMembers rest)
    | none => do return field name (← Direction.ofJson name j) (← ofMembers rest)

end

/-- The specification that a JSON value stands for, which has to be an object. -/
def ofJson (j : Json) : Except QueryError RowOrder :=
  match ofObject? j with
  | some s => s
  | none => .error (.invalidSort (.notObject j))

/-- The paths with their directions, depth first. -/
def flatten (parent : Option String) : RowOrder → List (String × Direction)
  | empty => []
  | field name d rest => (Key.under parent name, d) :: flatten parent rest
  | nested name inner rest => flatten (some (Key.under parent name)) inner ++ flatten parent rest

def clause (order : List (String × Direction)) : String :=
  if order.isEmpty then ""
  else "ORDER BY " ++ ", ".intercalate (order.map fun p => p.1 ++ " " ++ p.2.token)

end RowOrder

end SqlCompose
