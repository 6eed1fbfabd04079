import SqlCompose.Aggregate
import SqlCompose.Grouping
import SqlCompose.Filter
import SqlCompose.RowOrder
import SqlCompose.Settings

/-!
# Statements

A statement that selects from one table, assembled clause by clause. Filters and conditions on
groups accumulate; every other part is replaced.
-/

namespace SqlCompose

/-- A statement over one table, with everything that its text depends on. -/
structure Statement where
  table : Table
  conditions : List Condition := []
  projection : List Projection := []
  ordering : List (String × Direction) := []
  page : Page := {}
  isFinal : Bool := false
  grouping : Option Grouping := none
  settings : Settings := {}

namespace Statement

/-- Adds the conjunction of a filter's conditions. -/
def filter (s : Statement) (input : Filter) : Statement :=
  match input.conditions with
  | [] => s
  | [only] => { s with conditions := s.conditions ++ [only] }
  | many => { s with conditions := s.conditions ++ [.all many] }

/-- Adds the conjunction of a filter object with every comparison made an inequality. -/
def exclude (s : Statement) (l : Lookup) : Statement :=
  { s with conditions := s.conditions ++ (l.condition? (some .ne)).toList }

def project (s : Statement) (columns : List String) : Statement :=
  { s with projection := columns.map .column }

/-- Selects expressions, each under its key unless it has a label. -/
def aggregate (s : Statement) (items : List (String × Aggregate)) : Statement :=
  { s with projection := items.map fun item => .aggregate item.2 (some item.1) }

def sort (s : Statement) (order : RowOrder) : Statement :=
  { s with ordering := order.flatten none }

def limit (s : Statement) (n : UInt64) : Statement :=
  { s with page.limit := some n }

def offset (s : Statement) (n : UInt64) : Statement :=
  { s with page.offset := some n }

/-- Reads merged rows, which only a replacing engine has. -/
def final (s : Statement) : Except QueryError Statement :=
  if s.table.engine.isReplacing then .ok { s with isFinal := true }
  else .error (.finalNotSupported s.table.name s.table.engine)

/-- Groups by other columns and keeps the conditions on groups. -/
def groupBy (s : Statement) (fields : List String) : Statement :=
  { s with grouping := some { s.grouping.getD {} with fields } }

/-- Adds the conjunction of a filter object to the conditions on groups. -/
def having (s : Statement) (l : Lookup) : Statement :=
  { s with grouping := some ((s.grouping.getD {}).withLookup l) }

def withSettings (s : Statement) (settings : Settings) : Statement :=
  { s with settings }

/-- The clause of the conditions, empty without any. -/
def whereClause (s : Statement) : String :=
  Condition.clause "WHERE" s.settings.escapeStrings s.conditions

/-- What follows the table: the clauses that are not empty, in this order. -/
def clauses (s : Statement) : List String :=
  let grouping := s.grouping.getD {}
  let optional :=
    [s.whereClause, grouping.fieldsClause, grouping.havingClause s.settings.escapeStrings,
      RowOrder.clause s.ordering, s.page.clause]
  (if s.isFinal then ["FINAL"] else []) ++ optional.filter (· ≠ "")

def sql (s : Statement) : String :=
  " ".intercalate
    (("SELECT " ++ Projection.list s.projection ++ " FROM " ++ s.table.name) :: s.clauses)

def asSubquery (s : Statement) : Value :=
  .subquery s.sql

/-- The statement that removes the rows of the conditions, if there are any. -/
def deletion? (s : Statement) : Option String :=
  (Condition.conjunction? s.settings.escapeStrings s.conditions).map fun body =>
    "ALTER TABLE " ++ s.table.name ++ " DELETE WHERE " ++ body

end Statement

end SqlCompose
