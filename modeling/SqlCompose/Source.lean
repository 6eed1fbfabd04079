import SqlCompose.Schema
import SqlCompose.Text.Search

/-!
# Data sources

What answers statements, and the source that holds its answers in memory.
-/

namespace SqlCompose

/-- What a query sends back: rows in order, and failures between them. -/
abbrev RowStream := List (Except String Row)

/-- Anything that answers statements. A failure is the text of its reason. -/
structure Source where
  query : String → Except String RowStream
  execute : String → Except String Unit

/-- A source with prepared answers. The first response whose pattern occurs in a query answers it,
and the default rows answer every other query. -/
structure MemorySource where
  defaultRows : List Row := []
  responses : List (String × List Row) := []
  failure : Option String := none

namespace MemorySource

/-- The rows that answer a query. -/
def rowsFor (m : MemorySource) (sql : String) : List Row :=
  match m.responses.find? fun r => Text.contains r.1 sql with
  | some response => response.2
  | none => m.defaultRows

/-- Answers every statement, unless it is made to fail. -/
def toSource (m : MemorySource) : Source where
  query sql :=
    match m.failure with
    | some reason => .error reason
    | none => .ok ((m.rowsFor sql).map .ok)
  execute _ :=
    match m.failure with
    | some reason => .error reason
    | none => .ok ()

end MemorySource

end SqlCompose
