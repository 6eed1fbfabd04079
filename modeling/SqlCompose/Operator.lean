/-!
# Operators and joiners

The comparisons of a condition and the words that join conditions. A filter key names its operator
by a suffix.
-/

namespace SqlCompose

inductive Operator where
  | eq
  | ne
  | gt
  | lt
  | gte
  | lte
  | like
  | isIn
  | hasAny
deriving DecidableEq

namespace Operator

/-- Every operator, in the order in which suffixes are tried. -/
def all : List Operator :=
  [eq, ne, gt, lt, gte, lte, like, isIn, hasAny]

def token : Operator → String
  | eq => "="
  | ne => "!="
  | gt => ">"
  | lt => "<"
  | gte => ">="
  | lte => "<="
  | like => "LIKE"
  | isIn => "IN"
  | hasAny => "hasAny"

/-- The suffix that selects an operator; a key without suffix selects equality. -/
def suffix? : Operator → Option String
  | eq => none
  | ne => some "ne"
  | gt => some "gt"
  | lt => some "lt"
  | gte => some "gte"
  | lte => some "lte"
  | like => some "icontains"
  | isIn => some "in"
  | hasAny => some "has_any"

def ofSuffix? (suffix : String) : Option Operator :=
  all.find? fun op => op.suffix? = some suffix

/-- The operators whose operand is a list. -/
def isMembership (op : Operator) : Bool :=
  op = isIn || op = hasAny

end Operator

/-- The words that join conditions. -/
inductive Joiner where
  | and
  | or
  | not
deriving DecidableEq

def Joiner.token : Joiner → String
  | .and => "AND"
  | .or => "OR"
  | .not => "NOT"

end SqlCompose
