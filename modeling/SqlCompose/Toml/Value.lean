/-!
# TOML values

The values of a document. A number may be written in the form of one and have no value all the same;
it does no harm as long as nobody asks for it.
-/

namespace SqlCompose.Toml

/-- A TOML value. A date or time is known only as one. -/
inductive Value where
  | text (s : String)
  | integer (n : Int)
  | float (x : Float)
  /-- A number that is out of range or has letters among its digits. -/
  | badNumber
  | bool (b : Bool)
  | time
  | array (items : List Value)
  | table (entries : List (String × Value))

namespace Value

/-- An integer that fits into 128 bits, with a sign or without one. -/
def ofInt (n : Int) : Value :=
  if -(Nat.pow 2 127 : Int) ≤ n ∧ n < Nat.pow 2 128 then integer n else badNumber

/-- A double that is no infinity. -/
def ofFloat (x : Float) : Value :=
  if x.isInf then badNumber else float x

mutual

/-- Every number inside a value has a value. -/
def isSound : Value → Bool
  | badNumber => false
  | array items => areSound items
  | table entries => entriesAreSound entries
  | _ => true

def areSound : List Value → Bool
  | [] => true
  | v :: rest => isSound v && areSound rest

def entriesAreSound : List (String × Value) → Bool
  | [] => true
  | (_, v) :: rest => isSound v && entriesAreSound rest

end

end Value

end SqlCompose.Toml
