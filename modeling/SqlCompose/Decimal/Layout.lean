import SqlCompose.Decimal.Shortest

/-!
# Written numbers

How a double is written: where its point stands, when it has an exponent, and the words for what
is no finite number. A `Style` holds the decisions of one format.
-/

namespace SqlCompose.Decimal

/-- The decisions of a number format. -/
structure Style where
  /-- The exponents of a leading digit for which no exponent is written. -/
  positional : Int → Bool
  /-- What follows the digits of a whole number. -/
  wholeEnd : String
  tie : Tie
  notANumber : String
  infinity : String

/-- Digits with the point after the digit that counts ones. -/
def Numeral.positional (d : Numeral) (wholeEnd : String) : String :=
  if d.leading < 0 then
    "0." ++ String.ofList (List.replicate (-d.leading - 1).toNat '0' ++ d.digits)
  else
    let whole := d.leading.toNat + 1
    if d.digits.length ≤ whole then
      String.ofList (d.digits ++ List.replicate (whole - d.digits.length) '0') ++ wholeEnd
    else
      String.ofList (d.digits.take whole) ++ "." ++ String.ofList (d.digits.drop whole)

/-- One digit, the point and the other digits, and the exponent with its sign. -/
def Numeral.scientific (d : Numeral) : String :=
  let mark := if d.leading < 0 then "e-" else "e+"
  let fraction := if d.digits.length ≤ 1 then "" else "." ++ String.ofList (d.digits.drop 1)
  String.ofList (d.digits.take 1) ++ fraction ++ mark ++ toString d.leading.natAbs

namespace Style

def sign : Float.Model.UnpackedFloat.Sign → String
  | .negative => "-"
  | .positive => ""

def write (style : Style) (x : Float) : String :=
  match x.toModel.unpack with
  | .notANumber => style.notANumber
  | .infinity s => sign s ++ style.infinity
  | .zero s => sign s ++ "0" ++ style.wholeEnd
  | .finite s mantissa exponent _ =>
    let d := Binary.shortest style.tie ⟨mantissa, exponent⟩
    sign s ++ if style.positional d.leading then d.positional style.wholeEnd else d.scientific

end Style

end SqlCompose.Decimal
