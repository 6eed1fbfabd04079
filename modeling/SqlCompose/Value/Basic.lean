import SqlCompose.Calendar
import SqlCompose.Json.Writer
import SqlCompose.Uuid

/-!
# Filter values

The operands of a condition, and how an operand is prepared for a pattern or a membership test.
-/

namespace SqlCompose

/-- An operand: null, a scalar, a list of operands, or the text of a sub-query. -/
inductive Value where
  | null
  | bool (b : Bool)
  | int (n : Int64)
  | uint (n : UInt64)
  | float (x : Float)
  | text (s : String)
  | date (d : Date)
  | moment (t : Moment)
  | uuid (u : Uuid)
  | array (items : List Value)
  | subquery (sql : String)

namespace Value

def isNull : Value → Bool
  | null => true
  | _ => false

/-- Numbers never have an exponent, and a whole number has no point. -/
def floatStyle : Decimal.Style where
  positional := fun _ => true
  wholeEnd := ""
  tie := .up
  notANumber := "nan"
  infinity := "inf"

def boolText (b : Bool) : String :=
  if b then "true" else "false"

mutual

/-- The text of a value without quotes and brackets. -/
def plainText : Value → String
  | null => "NULL"
  | bool b => boolText b
  | int n => toString n.toInt
  | uint n => toString n.toNat
  | float x => floatStyle.write x
  | text s => s
  | date d => d.text
  | moment t => t.text
  | uuid u => u.text
  | array items => ",".intercalate (plainTexts items)
  | subquery sql => sql

def plainTexts : List Value → List String
  | [] => []
  | v :: rest => plainText v :: plainTexts rest

end

/-- The pattern of the texts that contain the value's text. -/
def likePattern : Value → Value
  | null => null
  | v => text ("%" ++ v.plainText ++ "%")

/-- A scalar becomes a list with that one item. -/
def asList : Value → Value
  | array items => array items
  | subquery sql => subquery sql
  | null => null
  | scalar => array [scalar]

/-- An integer as the narrowest of the two 64-bit kinds that holds it, signed first. -/
def ofInt (n : Int) : Value :=
  if Json.isSigned64 n then int (Int64.ofInt n)
  else if Json.isUnsigned64 n then uint (UInt64.ofNat n.toNat)
  else float (Float.ofInt n)

mutual

/-- A JSON value as an operand. An object is held as its text. -/
def ofJson : Json → Value
  | .null => null
  | .bool b => bool b
  | .integer n => ofInt n
  | .float x => float x
  | .string s => text s
  | .array items => array (ofJsons items)
  | .object members => text (Json.object members).text

def ofJsons : List Json → List Value
  | [] => []
  | j :: rest => ofJson j :: ofJsons rest

end

end Value

end SqlCompose
