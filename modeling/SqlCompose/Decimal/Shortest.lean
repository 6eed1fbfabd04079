/-!
# Shortest decimals

The decimal with the fewest digits that reads back as a given double. For one digit, then two, and
so on, the two neighbours of the number on that decimal grid are tried; the first grid with a hit
wins, and of two hits the nearer one.
-/

namespace SqlCompose.Decimal

/-- Which of two equally near neighbours is taken. -/
inductive Tie where
  | even
  | up

/-- The decimal fraction `0.d₁d₂… · 10 ^ (leading + 1)`: its digits, and the exponent of the
first. -/
structure Numeral where
  digits : List Char
  leading : Int

/-- The whole number `n · 10 ^ exponent` as digits without zeros at their end. -/
def Numeral.ofScaled (n : Nat) (exponent : Int) : Numeral :=
  let digits := Nat.toDigits 10 n
  ⟨(digits.reverse.dropWhile (· == '0')).reverse, exponent + (digits.length : Int) - 1⟩

/-- The positive number `mantissa · 2 ^ exponent`, as a double holds it. -/
structure Binary where
  mantissa : Nat
  exponent : Int

namespace Binary

/-- The double below it is only half as far away as the one above it. -/
def narrowBelow (x : Binary) : Bool :=
  x.mantissa == 0x10000000000000 && -1074 < x.exponent

/-- A power with an integer exponent, as numerator and denominator. -/
def power (base : Nat) (exponent : Int) : Nat × Nat :=
  (Nat.pow base exponent.toNat, Nat.pow base (-exponent).toNat)

/-- The exponent of the leading decimal digit. -/
def leading (x : Binary) : Int :=
  let (up, down) := power 2 x.exponent
  let top := x.mantissa * up
  let guess := ((Nat.toDigits 10 top).length : Int) - (Nat.toDigits 10 down).length
  let (tens, tenths) := power 10 guess
  if down * tens ≤ top * tenths then guess else guess - 1

/-- A grid of decimals, seen from the number: a point `c` of the grid stands at `c * step`, and a
quarter of the number's last binary place has size `quarter`. -/
structure Grid where
  step : Nat
  quarter : Nat

/-- The grid of the multiples of `10 ^ exponent`. -/
def grid (x : Binary) (exponent : Int) : Grid :=
  let (up, down) := power 2 (x.exponent - 2)
  let (tens, tenths) := power 10 exponent
  ⟨tens * down, up * tenths⟩

/-- A point of a grid that reads back as the number: it lies between the middles to the two
neighbouring doubles, and the middles themselves go to an even mantissa. -/
def readsBack (x : Binary) (g : Grid) (c : Nat) : Bool :=
  let low := (4 * x.mantissa - (if x.narrowBelow then 1 else 2)) * g.quarter
  let high := (4 * x.mantissa + 2) * g.quarter
  if x.mantissa % 2 = 0 then low ≤ c * g.step && c * g.step ≤ high
  else low < c * g.step && c * g.step < high

/-- The point of a grid that reads back and is nearest to the number. -/
def nearest? (tie : Tie) (x : Binary) (g : Grid) : Option Nat :=
  let below := 4 * x.mantissa * g.quarter / g.step
  let above := below + 1
  match x.readsBack g below, x.readsBack g above with
  | false, false => none
  | true, false => some below
  | false, true => some above
  | true, true =>
    let gapBelow := 4 * x.mantissa * g.quarter - below * g.step
    let gapAbove := above * g.step - 4 * x.mantissa * g.quarter
    if gapBelow < gapAbove then some below
    else if gapAbove < gapBelow then some above
    else match tie with
      | .up => some above
      | .even => if below % 2 = 0 then some below else some above

def exact (x : Binary) : Numeral :=
  if 0 ≤ x.exponent then .ofScaled (x.mantissa * Nat.pow 2 x.exponent.toNat) 0
  else .ofScaled (x.mantissa * Nat.pow 5 (-x.exponent).toNat) x.exponent

/-- The shortest decimal that reads back as the number; seventeen digits are always enough. -/
def shortest (tie : Tie) (x : Binary) : Numeral :=
  let found := (List.range 17).findSome? fun (more : Nat) =>
    let exponent := x.leading - more
    (x.nearest? tie (x.grid exponent)).map fun c => Numeral.ofScaled c exponent
  found.getD x.exact

end Binary

end SqlCompose.Decimal
