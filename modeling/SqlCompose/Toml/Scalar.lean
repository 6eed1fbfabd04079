import SqlCompose.Calendar
import SqlCompose.Decimal.Nearest
import SqlCompose.Text.Search
import SqlCompose.Toml.Value

/-!
# Bare TOML scalars

The values that are written without quotes: truth values, integers, floats, dates and times.
-/

namespace SqlCompose.Toml

open Text

/-- Digits of one kind, with single underscores between them. -/
def digits? (isDigit : Char → Bool) (cs : List Char) : Option (List Char) :=
  let groups := cs.splitOn '_'
  if groups.all fun g => !g.isEmpty && g.all isDigit then some groups.flatten else none

/-- Decimal digits without a zero in front of others. -/
def plainDigits? (cs : List Char) : Option (List Char) := do
  let ds ← digits? Char.isDigit cs
  if 1 < ds.length ∧ ds.head? = some '0' then none else some ds

/-- Whether a number is negative, and what follows its sign. -/
def cutSign : List Char → Bool × List Char
  | '-' :: rest => (true, rest)
  | '+' :: rest => (false, rest)
  | cs => (false, cs)

/-- The number that digits in a base stand for; no digits stand for none. -/
def inBase? (base : Nat) (cs : List Char) : Option Value :=
  if cs.isEmpty then some .badNumber
  else
    (digits? (fun c => (hexValue? c).any (· < base)) cs).map fun ds =>
      .ofInt (ds.foldl (fun n c => n * base + (hexValue? c).getD 0) 0 : Nat)

/-- The groups after the first underscore have the form of a number when hexadecimal digits stand
beside all underscores and there is no mark of a float. -/
def areGroups (groups : List (List Char)) : Bool :=
  let isHex := fun c => (hexValue? c).isSome
  let isMark := fun c => c == '.' || c == 'e' || c == 'E'
  (groups.all fun g => g.head?.any isHex) && (groups.dropLast.all fun g => g.getLast?.any isHex) &&
    !groups.flatten.any isMark

/-- An integer in decimal digits, perhaps with a sign and with underscores. A zero in front has to be
the only digit. A number with a letter after an underscore has no value. -/
def decimal? (cs : List Char) : Option Value := do
  let (negative, rest) := cutSign cs
  let front ← natural? (rest.takeWhile (· ≠ '_'))
  let groups := (rest.splitOn '_').drop 1
  if !areGroups groups ∨ rest.head? = some '0' ∧ 1 < rest.length then none
  if groups.flatten.all Char.isDigit then
    let size := Nat.ofDigitChars 10 groups.flatten front
    return .ofInt (if negative then -(size : Int) else size)
  else return .badNumber

/-- An integer, in decimal digits with a sign or in another base without one. -/
def integer? (cs : List Char) : Option Value :=
  match cs with
  | '0' :: 'x' :: ds => inBase? 16 ds
  | '0' :: 'o' :: ds => inBase? 8 ds
  | '0' :: 'b' :: ds => inBase? 2 ds
  | cs => decimal? cs

/-- The exponent after the mark of a float. -/
def exponent? (cs : List Char) : Option Int := do
  let (negative, rest) := cutSign cs
  let ds ← digits? Char.isDigit rest
  let size := Nat.ofDigitChars 10 ds 0
  return if negative then -(size : Int) else size

/-- A float with a fraction, an exponent or both, or one of the words for infinity and no number. -/
def float? (cs : List Char) : Option Value := do
  let (negative, rest) := cutSign cs
  if rest = ['i', 'n', 'f'] then return .float (if negative then -1 / 0 else 1 / 0)
  if rest = ['n', 'a', 'n'] then return .float (0 / 0)
  let isMark := fun c => c == 'e' || c == 'E'
  let mantissa := rest.takeWhile fun c => !isMark c
  let whole := mantissa.takeWhile (· ≠ '.')
  let wholeDigits ← plainDigits? whole
  let fraction ← match mantissa.drop whole.length with
    | [] => some []
    | _ :: ds => digits? Char.isDigit ds
  let exponent ← match rest.drop mantissa.length with
    | [] => if mantissa.length = whole.length then none else some 0
    | _ :: ds => exponent? ds
  return .ofFloat <| Decimal.nearest negative (Nat.ofDigitChars 10 (wholeDigits ++ fraction) 0)
    (exponent - fraction.length)

/-- A number of exactly `width` digits and what follows it. -/
def fixed? (width : Nat) (cs : List Char) : Option (Nat × List Char) := do
  let ds := cs.take width
  if ds.length = width then return (← natural? ds, cs.drop width) else none

/-- What follows a date. -/
def date? (cs : List Char) : Option (List Char) := do
  let (year, cs) ← fixed? 4 cs
  let (month, cs) ← fixed? 2 (← after? ['-'] cs)
  let (day, cs) ← fixed? 2 (← after? ['-'] cs)
  let _ ← Date.ofCivil? ⟨year, month, day⟩
  return cs

/-- What follows a clock time, whose seconds and their fraction may be missing. -/
def clock? (cs : List Char) : Option (List Char) := do
  let (hour, cs) ← fixed? 2 cs
  let (minute, cs) ← fixed? 2 (← after? [':'] cs)
  if hour > 23 ∨ minute > 59 then none
  match cs with
  | ':' :: cs => do
    let (second, cs) ← fixed? 2 cs
    if second > 60 then none
    match cs with
    | '.' :: cs =>
      if (cs.takeWhile Char.isDigit).isEmpty then none else some (cs.dropWhile Char.isDigit)
    | cs => some cs
  | cs => some cs

/-- A distance from universal time, or nothing. -/
def isOffset (cs : List Char) : Bool :=
  match cs with
  | [] | ['Z'] | ['z'] => true
  | '+' :: cs | '-' :: cs => Option.isSome do
    let (hour, cs) ← fixed? 2 cs
    let (minute, cs) ← fixed? 2 (← after? [':'] cs)
    if hour ≤ 23 ∧ minute ≤ 59 ∧ cs = [] then some () else none
  | _ => false

/-- A date, a clock time, or both with a distance from universal time. -/
def isTime (cs : List Char) : Bool :=
  match date? cs with
  | some [] => true
  | some (c :: rest) =>
    (c = 'T' || c = 't' || c = ' ') && (clock? rest).any isOffset
  | none => clock? cs = some []

def scalar? (cs : List Char) : Option Value :=
  if cs = ['t', 'r', 'u', 'e'] then some (.bool true)
  else if cs = ['f', 'a', 'l', 's', 'e'] then some (.bool false)
  else
    (integer? cs).or <| (float? cs).or <| if isTime cs then some .time else none

/-- The characters that end a scalar without quotes. -/
def scalarEnds : List Char :=
  [' ', '\t', '\n', '\r', '#', ',', '=', '[', ']', '\x7b', '\x7d', '"', '\'']

/-- The characters of a scalar without quotes. -/
def isScalarChar (c : Char) : Bool :=
  !scalarEnds.contains c

end SqlCompose.Toml
