import SqlCompose.Text.Quoted
import SqlCompose.Value.Basic

/-!
# Literals of values

How an operand is written in a statement. A list on its own is written in parentheses, and inside
another list or as an array in brackets.
-/

namespace SqlCompose.Value

mutual

/-- The literal of a value that stands inside a list. -/
def element (escaping : Bool) : Value → String
  | null => "NULL"
  | bool b => boolText b
  | int n => toString n.toInt
  | uint n => toString n.toNat
  | float x => floatStyle.write x
  | text s => Text.quoted escaping s
  | date d => Text.quoted false d.text
  | moment t => Text.quoted false t.text
  | uuid u => Text.quoted false u.text
  | array items => "[" ++ ", ".intercalate (elements escaping items) ++ "]"
  | subquery sql => "(" ++ sql ++ ")"

def elements (escaping : Bool) : List Value → List String
  | [] => []
  | v :: rest => element escaping v :: elements escaping rest

end

theorem elements_eq_map (escaping : Bool) (items : List Value) :
    elements escaping items = items.map (element escaping) := by
  induction items with
  | nil => rfl
  | cons v rest ih => simp [elements, ih]

def joined (escaping : Bool) (items : List Value) : String :=
  ", ".intercalate (elements escaping items)

/-- The literal of an operand. -/
def literal (escaping : Bool) : Value → String
  | array items => "(" ++ joined escaping items ++ ")"
  | v => v.element escaping

/-- The array literal of an operand; a scalar is the only item of its array. -/
def arrayLiteral (escaping : Bool) : Value → String
  | array items => "[" ++ joined escaping items ++ "]"
  | v => "[" ++ v.element escaping ++ "]"

end SqlCompose.Value
