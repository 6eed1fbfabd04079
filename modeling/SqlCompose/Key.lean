import SqlCompose.Operator
import SqlCompose.Text.Search

/-!
# Filter keys

A key is a column, or a column and an operator suffix with `__` between them.
-/

namespace SqlCompose.Key

/-- What stands between a column and an operator suffix. -/
def delimiter : String := "__"

/-- Cuts a key at the first delimiter. A suffix that names no operator means equality. -/
def resolve (key : String) : String × Operator :=
  match Text.cut? delimiter.toList key.toList with
  | some (base, suffix) =>
    (String.ofList base, (Operator.ofSuffix? (String.ofList suffix)).getD .eq)
  | none => (key, .eq)

/-- The column that a key names. -/
def base (key : String) : String :=
  (resolve key).1

def operator (key : String) : Operator :=
  (resolve key).2

/-- The path of a name under the path of the object that holds it. -/
def under (parent : Option String) (name : String) : String :=
  match parent with
  | some parent => parent ++ "." ++ name
  | none => name

end SqlCompose.Key
