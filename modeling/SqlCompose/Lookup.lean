import SqlCompose.Condition.Basic
import SqlCompose.Error
import SqlCompose.Key

/-!
# Filter objects

An ordered object of keys and operands, which may hold further objects. It is flattened into one
comparison for each operand.
-/

namespace SqlCompose

/-- An ordered filter object: the conjunction of its entries. -/
inductive Lookup where
  | empty
  | value (key : String) (operand : Value) (rest : Lookup)
  | nested (key : String) (inner : Lookup) (rest : Lookup)

namespace Lookup

def append : Lookup → Lookup → Lookup
  | empty, b => b
  | value key v rest, b => value key v (append rest b)
  | nested key inner rest, b => nested key inner (append rest b)

instance : Append Lookup := ⟨append⟩

def withValue (l : Lookup) (key : String) (v : Value) : Lookup :=
  l ++ value key v empty

def withNested (l : Lookup) (key : String) (inner : Lookup) : Lookup :=
  l ++ nested key inner empty

def size : Lookup → Nat
  | empty => 0
  | value _ _ rest => rest.size + 1
  | nested _ _ rest => rest.size + 1

mutual

def ofObject? : Json → Option Lookup
  | .object members => some (ofMembers members)
  | _ => none

/-- The members of a JSON object as entries; its objects become nested ones. -/
def ofMembers : List (String × Json) → Lookup
  | [] => empty
  | (key, j) :: rest =>
    match ofObject? j with
    | some inner => nested key inner (ofMembers rest)
    | none => value key (Value.ofJson j) (ofMembers rest)

end

/-- The filter object that a JSON value stands for, which has to be an object. -/
def ofJson (j : Json) : Except QueryError Lookup :=
  match ofObject? j with
  | some l => .ok l
  | none => .error (.invalidFilter j)

/-- One comparison for each operand, depth first. A nested object puts its column in front of the
paths inside it, and a forced operator replaces those that the keys select. -/
def flatten (forced : Option Operator) (parent : Option String) : Lookup → List Comparison
  | empty => []
  | value key v rest =>
    .prepared (Key.under parent (Key.base key)) (forced.getD (Key.operator key)) v ::
      flatten forced parent rest
  | nested key inner rest =>
    flatten forced (some (Key.under parent (Key.base key))) inner ++ flatten forced parent rest

/-- The keys whose suffix is lost when an operator is forced, depth first. -/
def lostSuffixes (forced : Operator) : Lookup → List String
  | empty => []
  | value key _ rest =>
    if Key.operator key ≠ forced ∧ Key.operator key ≠ .eq then
      key :: lostSuffixes forced rest
    else lostSuffixes forced rest
  | nested _ inner rest => lostSuffixes forced inner ++ lostSuffixes forced rest

/-- The conjunction of all comparisons, if there are any. -/
def condition? (forced : Option Operator) (l : Lookup) : Option Condition :=
  match l.flatten forced none with
  | [] => none
  | comparisons => some (.all (comparisons.map .leaf))

theorem flatten_append (forced : Option Operator) (parent : Option String) (a b : Lookup) :
    (a ++ b).flatten forced parent = a.flatten forced parent ++ b.flatten forced parent := by
  change (append a b).flatten forced parent = _
  induction a with
  | empty => rfl
  | value key v rest ih => simp [append, flatten, ih]
  | nested key inner rest _ ih => simp [append, flatten, ih]

end Lookup

end SqlCompose
