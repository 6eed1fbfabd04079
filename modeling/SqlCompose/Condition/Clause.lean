import SqlCompose.Condition.Basic
import SqlCompose.Value.Literal

/-!
# Conditions in a statement

How comparisons, condition trees and lists of conditions are written. A comparison stands bare
inside a tree and in parentheses on its own.
-/

namespace SqlCompose

def Comparison.sql (escaping : Bool) (c : Comparison) : String :=
  if c.value.isNull then c.path ++ " IS NULL"
  else
    match c.operator, c.value with
    | .isIn, .subquery sql => c.path ++ " IN (" ++ sql ++ ")"
    | .isIn, .array [] => c.path ++ " IN (NULL)"
    | .isIn, .array items => c.path ++ " IN (" ++ Value.joined escaping items ++ ")"
    | .isIn, v => c.path ++ " IN (" ++ v.element escaping ++ ")"
    | .hasAny, .subquery sql => "hasAny(" ++ c.path ++ ", (" ++ sql ++ "))"
    | .hasAny, v => "hasAny(" ++ c.path ++ ", " ++ v.arrayLiteral escaping ++ ")"
    | op, v => c.path ++ " " ++ op.token ++ " " ++ v.literal escaping

namespace Condition

mutual

def sql (escaping : Bool) : Condition → String
  | leaf c => c.sql escaping
  | group joiner negated members =>
    if negated then "(NOT " ++ body escaping joiner members ++ ")"
    else body escaping joiner members

/-- The members of a group with the joiner between them. A group that is alone in a group stands
for it, and an empty group is written as a comparison of constants. -/
def body (escaping : Bool) (joiner : Joiner) : List Condition → String
  | [] => if joiner = .or then "1 = 0" else "1 = 1"
  | [only] =>
    if only.isGroup then sql escaping only else "(" ++ sql escaping only ++ ")"
  | first :: second :: rest =>
    "(" ++ (" " ++ joiner.token ++ " ").intercalate
      (sql escaping first :: sql escaping second :: sqls escaping rest) ++ ")"

def sqls (escaping : Bool) : List Condition → List String
  | [] => []
  | c :: rest => sql escaping c :: sqls escaping rest

end

theorem sqls_eq_map (escaping : Bool) (cs : List Condition) :
    sqls escaping cs = cs.map (sql escaping) := by
  induction cs with
  | nil => rfl
  | cons c rest ih => simp [sqls, ih]

def statementSql (escaping : Bool) : Condition → String
  | leaf c => "(" ++ c.sql escaping ++ ")"
  | c => c.sql escaping

/-- The conjunction of the conditions of a statement. -/
def conjunction? (escaping : Bool) : List Condition → Option String
  | [] => none
  | [only] => some (only.statementSql escaping)
  | many => some ("(" ++ " AND ".intercalate (many.map (statementSql escaping)) ++ ")")

/-- A clause with the conjunction of conditions, empty without any. -/
def clause (keyword : String) (escaping : Bool) (conditions : List Condition) : String :=
  match conjunction? escaping conditions with
  | some body => keyword ++ " " ++ body
  | none => ""

end Condition

end SqlCompose
