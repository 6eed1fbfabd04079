import SqlCompose.Operator
import SqlCompose.Value.Basic

/-!
# Condition trees

Comparisons joined into groups, each of which may be negated.
-/

namespace SqlCompose

/-- The comparison of a column with an operand. -/
structure Comparison where
  path : String
  operator : Operator
  value : Value

/-- A comparison whose operand is prepared for its operator. -/
def Comparison.prepared (path : String) (operator : Operator) (value : Value) : Comparison :=
  { path, operator
    value :=
      if operator = .like then value.likePattern
      else if operator.isMembership then value.asList
      else value }

/-- A condition is one comparison or a group of conditions. -/
inductive Condition where
  | leaf (comparison : Comparison)
  | group (joiner : Joiner) (negated : Bool) (members : List Condition)

namespace Condition

def all (members : List Condition) : Condition :=
  group .and false members

def any (members : List Condition) : Condition :=
  group .or false members

def negate (members : List Condition) : Condition :=
  group .and true members

/-- The group of `members` under a joiner; a negation is a negated conjunction. -/
def joined (joiner : Joiner) (members : List Condition) : Condition :=
  match joiner with
  | .and => all members
  | .or => any members
  | .not => negate members

def isGroup : Condition → Bool
  | leaf _ => false
  | group _ _ _ => true

end Condition

end SqlCompose
