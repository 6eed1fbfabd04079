/-!
# JSON values

Values whose objects keep their members in document order.
-/

namespace SqlCompose

/-- A JSON value. A number with a fraction, with an exponent or outside the 64-bit ranges is a
double; every other number is an integer. -/
inductive Json where
  | null
  | bool (b : Bool)
  | integer (n : Int)
  | float (x : Float)
  | string (s : String)
  | array (items : List Json)
  | object (members : List (String × Json))

instance : Inhabited Json := ⟨.null⟩

namespace Json

def isSigned64 (n : Int) : Bool :=
  Int64.minValue.toInt ≤ n && n ≤ Int64.maxValue.toInt

def isUnsigned64 (n : Int) : Bool :=
  0 ≤ n && n < UInt64.size

def member? (name : String) : List (String × Json) → Option Json
  | [] => none
  | (key, value) :: rest => if key = name then some value else member? name rest

/-- Puts a member at the end, or a new value where its name stands. -/
def insert (members : List (String × Json)) (name : String) (value : Json) :
    List (String × Json) :=
  match members with
  | [] => [(name, value)]
  | (key, old) :: rest =>
    if key = name then (key, value) :: rest else (key, old) :: insert rest name value

end Json

end SqlCompose
