import SqlCompose.Condition.Clause
import SqlCompose.Lookup

/-!
# Grouping and paging

The columns by which rows are grouped with the conditions on the groups, and the part of the rows
that is returned.
-/

namespace SqlCompose

structure Grouping where
  fields : List String := []
  having : List Condition := []

namespace Grouping

def withLookup (g : Grouping) (l : Lookup) : Grouping :=
  { g with having := g.having ++ (l.condition? none).toList }

def withCondition (g : Grouping) (c : Condition) : Grouping :=
  { g with having := g.having ++ [c] }

def fieldsClause (g : Grouping) : String :=
  if g.fields.isEmpty then "" else "GROUP BY " ++ ", ".intercalate g.fields

/-- The clause of the conditions on groups, empty without any. -/
def havingClause (escaping : Bool) (g : Grouping) : String :=
  Condition.clause "HAVING" escaping g.having

end Grouping

/-- How many rows are returned at most, and how many are passed over. -/
structure Page where
  limit : Option UInt64 := none
  offset : Option UInt64 := none

def Page.clause (p : Page) : String :=
  " ".intercalate <|
    (p.limit.map fun n => "LIMIT " ++ toString n.toNat).toList ++
      (p.offset.map fun n => "OFFSET " ++ toString n.toNat).toList

end SqlCompose
