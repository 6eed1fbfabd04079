import SqlCompose.Session
import SqlCompose.Statement

/-!
# Queries

A statement bound to a source. Reading row by row keeps a stream open; every other way of reading
sends the statement anew, and so does a query derived from another one.
-/

namespace SqlCompose

/-- A statement, the source it is bound to and the stream it has open. -/
structure Query where
  statement : Statement
  link : Option Link := none
  cursor : Option RowStream := none

/-- The ways of running a query. -/
inductive Operation where
  | all
  | first
  | count
  | next
  | delete
deriving DecidableEq

def Operation.label : Operation → String
  | all => "ALL"
  | first => "FIRST"
  | count => "COUNT"
  | next => "NEXT"
  | delete => "DELETE"

/-- The statement that counts the rows of another one: what stands before its `FROM` is replaced. -/
def countSql (sql : String) : String :=
  match Text.cut? " FROM ".toList sql.toList with
  | some (_, rest) => "SELECT count() AS count FROM " ++ String.ofList rest
  | none => sql

/-- An unsigned number of 64 bits in decimal digits, with a plus sign or none in front. -/
def countOfText? (s : String) : Option UInt64 := do
  let digits := match s.toList with
    | '+' :: rest => rest
    | cs => cs
  let n ← Text.natural? digits
  if n < UInt64.size then some (UInt64.ofNat n) else none

/-- The count that a value holds, as a number or as text. -/
def countOfJson? : Json → Option UInt64
  | .integer n => if Json.isUnsigned64 n then some (UInt64.ofNat n.toNat) else none
  | .string s => countOfText? s
  | _ => none

/-- The count in a row: in the column of that name, or else in the first column. -/
def readCount (row : Row) : Except QueryError UInt64 :=
  match (Json.member? "count" row).or (row.head?.map (·.2)) with
  | none => .error (.unexpectedResult .noColumns)
  | some value =>
    match countOfJson? value with
    | some n => .ok n
    | none => .error (.unexpectedResult (.notCount value))

namespace Query

variable {α : Type}

/-- The query of a changed statement, with the same source and no open stream. -/
def derive (q : Query) (change : Statement → Statement) : Query :=
  { statement := change q.statement, link := q.link }

def bindTo (q : Query) (link : Link) : Query :=
  { statement := q.statement, link := some link }

/-- The query without the rows of a filter object. Suffixes that the inequality replaces are
logged. -/
def exclude (q : Query) (l : Lookup) : StateM Session Query := do
  modify (Session.logAll (l.warnings .ne))
  return q.derive (·.exclude l)

def isBound (q : Query) : Bool :=
  q.link.isSome

def isIterating (q : Query) : Bool :=
  q.cursor.isSome

/-- The source to which statements are sent. -/
def boundLink (q : Query) : Except QueryError Link :=
  match q.link with
  | some link => .ok link
  | none => .error (.noSource q.statement.table.name)

/-- The entries of the log for a statement: one with the table as a field, or two in detail. -/
def statementEvents (q : Query) (op : Operation) (sql : String) : List Event :=
  let table := q.statement.table.name
  if q.statement.settings.logQueries then
    [⟨.info, "[" ++ op.label ++ "] " ++ sql, some table⟩]
  else
    [⟨.debug, "[" ++ op.label ++ "] Table: " ++ table, none⟩,
      ⟨.debug, "[" ++ op.label ++ "] SQL: " ++ sql, none⟩]

def logStatement (q : Query) (op : Operation) (sql : String) : Run QueryError Unit :=
  modify (Session.logAll (q.statementEvents op sql))

/-- Logs a query and sends it to the source. -/
def start (q : Query) (op : Operation) (sql : String) : Run QueryError RowStream := do
  let link ← q.boundLink
  q.logStatement op sql
  link.query sql

/-- The value that a row decodes to. -/
def decodeRow (q : Query) (decode : Row → Option α) (row : Row) : Except QueryError α :=
  match decode row with
  | some a => .ok a
  | none => .error (.undecodable q.statement.table.name)

def decodeItem (q : Query) (decode : Row → Option α) : Except String Row → Except QueryError α
  | .ok row => q.decodeRow decode row
  | .error reason => .error (.source reason)

def all (q : Query) (decode : Row → Option α) : Run QueryError (List α) := do
  let stream ← q.start .all q.statement.sql
  let rows ← stream.rows
  modify (Session.log ⟨.debug, "[ALL] Rows fetched: " ++ toString rows.length, none⟩)
  rows.mapM fun row => liftM (q.decodeRow decode row)

/-- The first row of the statement under a limit of one. -/
def first (q : Query) (decode : Row → Option α) : Run QueryError (Option α) := do
  match ← q.start .first (q.statement.limit 1).sql with
  | [] => return none
  | item :: _ => return some (← q.decodeItem decode item)

/-- The number of rows of the statement, which the source counts. -/
def count (q : Query) : Run QueryError UInt64 := do
  match ← q.start .count (countSql q.statement.sql) with
  | [] => throw (.unexpectedResult .noRows)
  | item :: _ => readCount (← q.decodeItem some item)

/-- Removes the rows of the conditions. Without conditions nothing is sent. -/
def delete (q : Query) : Run QueryError Unit := do
  match q.statement.deletion? with
  | none => throw (.unfilteredDelete q.statement.table.name)
  | some sql =>
    let link ← q.boundLink
    q.logStatement .delete sql
    link.execute sql

/-- The stream that reading row by row goes on with; it is opened where there is none. -/
def openCursor (q : Query) : Run QueryError RowStream :=
  match q.cursor with
  | some stream => return stream
  | none => q.start .next q.statement.sql

/-- The next row, if there is one, and the query that goes on after it. A stream that cannot be
opened leaves the query as it was. -/
def next (q : Query) (decode : Row → Option α) :
    StateM Session (Except QueryError (Option α) × Query) := do
  match ← q.openCursor.run with
  | .error e => return (.error e, q)
  | .ok [] => return (.ok none, { q with cursor := some [] })
  | .ok (item :: rest) =>
    return ((q.decodeItem decode item).map some, { q with cursor := some rest })

/-- The query without its open stream. -/
def reset (q : Query) : Query :=
  { q with cursor := none }

end Query

end SqlCompose
