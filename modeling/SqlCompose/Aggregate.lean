/-!
# Aggregates and projections

Function calls over columns joined by arithmetic, and the list of what a statement selects.
-/

namespace SqlCompose

inductive Arithmetic where
  | add
  | sub
  | mul
  | div
deriving DecidableEq

def Arithmetic.token : Arithmetic → String
  | add => "+"
  | sub => "-"
  | mul => "*"
  | div => "/"

/-- A call on a column, a call on an expression, or arithmetic, each with a label of its own. -/
inductive Aggregate where
  | onColumn (function column : String) (label : Option String)
  | onAggregate (function : String) (argument : Aggregate) (label : Option String)
  | arithmetic (left : Aggregate) (op : Arithmetic) (right : Aggregate) (label : Option String)
deriving DecidableEq

namespace Aggregate

def label : Aggregate → Option String
  | onColumn _ _ label => label
  | onAggregate _ _ label => label
  | arithmetic _ _ _ label => label

def withLabel (label : String) : Aggregate → Aggregate
  | onColumn function column _ => onColumn function column (some label)
  | onAggregate function argument _ => onAggregate function argument (some label)
  | arithmetic left op right _ => arithmetic left op right (some label)

/-- The expression without labels; arithmetic always stands in parentheses. -/
def expression : Aggregate → String
  | onColumn function column _ => function ++ "(" ++ column ++ ")"
  | onAggregate function argument _ => function ++ "(" ++ argument.expression ++ ")"
  | arithmetic left op right _ =>
    "(" ++ left.expression ++ " " ++ op.token ++ " " ++ right.expression ++ ")"

/-- The expression under its own label, or else under `fallback`. -/
def sql (fallback : Option String) (a : Aggregate) : String :=
  match a.label.or fallback with
  | some label => a.expression ++ " as " ++ label
  | none => a.expression

def countRows : Aggregate :=
  onColumn "COUNT" "*" none

end Aggregate

/-- One item that a statement selects. -/
inductive Projection where
  | all
  | column (name : String)
  | aggregate (expression : Aggregate) (label : Option String)

namespace Projection

def sql : Projection → String
  | all => "*"
  | column name => name
  | aggregate expression label => expression.sql label

/-- The items with commas between them; without any, all columns. -/
def list (items : List Projection) : String :=
  if items.isEmpty then "*" else ", ".intercalate (items.map sql)

end Projection

end SqlCompose
