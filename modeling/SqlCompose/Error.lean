import SqlCompose.Json.Writer
import SqlCompose.Table.Engine

/-!
# Errors of queries

The causes for which a query cannot be built or run, and the text of each.
-/

namespace SqlCompose

/-- Why a sort specification is refused. -/
inductive SortFault where
  | direction (given : Int)
  | notObject (found : Json)
  | notInteger (field : String)
  | unknownDirection (word field : String)
  | unsupported (found : Json) (field : String)

def SortFault.message : SortFault → String
  | direction given => "direction must be 1 or -1, got " ++ toString given
  | notObject found => "sort specification must be a JSON object, got " ++ found.text
  | notInteger field => "direction for '" ++ field ++ "' must be an integer"
  | unknownDirection word field => "unknown direction '" ++ word ++ "' for '" ++ field ++ "'"
  | unsupported found field => "unsupported direction " ++ found.text ++ " for '" ++ field ++ "'"

/-- Why the answer to a count is no number. -/
inductive CountFault where
  | noRows
  | noColumns
  | notCount (found : Json)

def CountFault.message : CountFault → String
  | noRows => "count() returned no rows"
  | noColumns => "count() row has no columns"
  | notCount found => "count() returned " ++ found.text

/-- Why a query cannot be built or run. -/
inductive QueryError where
  | finalNotSupported (table : String) (engine : Engine)
  | invalidFilter (found : Json)
  | invalidSort (fault : SortFault)
  | noSource (table : String)
  | unfilteredDelete (table : String)
  | undecodable (table : String)
  | unexpectedResult (fault : CountFault)
  | source (reason : String)

def QueryError.message : QueryError → String
  | finalNotSupported table engine =>
    "FINAL is not supported for table '" ++ table ++ "' with engine " ++ engine.name
  | invalidFilter found => "Invalid filter: filter must be a JSON object, got " ++ found.text
  | invalidSort fault => "Invalid sort specification: " ++ fault.message
  | noSource table => "No data source bound to query on table '" ++ table ++ "'"
  | unfilteredDelete table =>
    "Refusing to delete from '" ++ table ++ "' without any filter conditions"
  | undecodable table => "Failed to decode row from '" ++ table ++ "'"
  | unexpectedResult fault => "Unexpected result shape: " ++ fault.message
  | source reason => "Data source error: " ++ reason

end SqlCompose
