import SqlCompose.Decimal.Nearest
import SqlCompose.Json.Basic
import SqlCompose.Text.Digits
import SqlCompose.Text.Reader

/-!
# Reading JSON text

Reads one JSON value from a text. Containers may nest to a fixed depth, a repeated member replaces
the earlier one, and a number becomes an integer or the nearest double.
-/

namespace SqlCompose.Json

open Text

/-- How deep arrays and objects may nest. -/
def depthLimit : Nat := 127

def isBlank (c : Char) : Bool :=
  c == ' ' || c == '\t' || c == '\n' || c == '\r'

def blanks : Reader Unit := do
  let _ ← Reader.takeWhile isBlank

def mark (c : Char) : Token Char :=
  .precededBy blanks (.char c)

def hexDigit : Reader Nat := do
  let c ← (Token.charWhere fun c => (hexValue? c).isSome).reader
  Reader.ofOption (hexValue? c)

/-- A unit of sixteen bits as four hexadecimal digits. -/
def unit : Reader Nat := do
  let a ← hexDigit
  let b ← hexDigit
  let c ← hexDigit
  let d ← hexDigit
  return ((a * 16 + b) * 16 + c) * 16 + d

/-- The character of one unit, or of a high unit and the low one that must follow it. -/
def unicodeChar : Reader Char := do
  let high ← unit
  if 0xD800 ≤ high ∧ high < 0xDC00 then
    let _ ← (Token.char '\\').reader
    let _ ← (Token.char 'u').reader
    let low ← unit
    if 0xDC00 ≤ low ∧ low < 0xE000 then
      return Char.ofNat (0x10000 + (high - 0xD800) * 0x400 + (low - 0xDC00))
    else Reader.refuse
  else if 0xDC00 ≤ high ∧ high < 0xE000 then Reader.refuse
  else return Char.ofNat high

def escaped : Reader Char := do
  let c ← (Token.charWhere fun _ => true).reader
  match c with
  | '"' | '\\' | '/' => return c
  | 'b' => return '\x08'
  | 'f' => return '\x0c'
  | 'n' => return '\n'
  | 'r' => return '\r'
  | 't' => return '\t'
  | 'u' => unicodeChar
  | _ => Reader.refuse

/-- One character of a string, control characters excluded. -/
def stringChar : Token Char :=
  .orElse (.charWhere fun c => c ≠ '"' && c ≠ '\\' && 0x20 ≤ c.toNat)
    ((Token.char '\\').andThen fun _ => escaped)

def stringToken : Token String :=
  (mark '"').andThen fun _ => do
    let body ← stringChar.many
    let _ ← (Token.char '"').reader
    return String.ofList body

def digitToken : Token Char :=
  .charWhere Char.isDigit

def digits : Token (List Char) :=
  digitToken.andThen fun first => do
    let others ← Reader.takeWhile Char.isDigit
    return first :: others

def toNat (ds : List Char) : Nat :=
  Nat.ofDigitChars 10 ds 0

/-- The digits after a point. -/
def fraction : Token (List Char) :=
  (Token.char '.').andThen fun _ => digits.reader

def exponentPart : Token Int :=
  (Token.charWhere fun c => c == 'e' || c == 'E').andThen fun _ => do
    let sign ← (Token.charWhere fun c => c == '+' || c == '-').optional
    let ds ← digits.reader
    return if sign = some '-' then -(toNat ds : Int) else toNat ds

/-- The value of a number whose sign and whole digits are read. Zero is negative as a double
only. -/
def numberEnd (negative : Bool) (whole : List Char) : Reader Json := do
  let decimals ← fraction.optional
  let exponent ← exponentPart.optional
  let n : Int := if negative then -(toNat whole : Int) else toNat whole
  let isWhole := decimals.isNone && exponent.isNone && !(negative && n == 0)
  if isWhole && (isSigned64 n || isUnsigned64 n) then return .integer n
  else
    let ds := decimals.getD []
    return .float (Decimal.nearest negative (toNat (whole ++ ds)) (exponent.getD 0 - ds.length))

/-- A number has no zero in front of other digits. -/
def wholeDigits : Token (List Char) :=
  digitToken.andThen fun first =>
    if first = '0' then Reader.give [first]
    else do
      let others ← Reader.takeWhile Char.isDigit
      return first :: others

def number : Token Json :=
  .precededBy blanks <| .orElse
    (wholeDigits.andThen (numberEnd false))
    ((Token.char '-').andThen fun _ => do
      let whole ← wholeDigits.reader
      numberEnd true whole)

def literal : Token Json :=
  .precededBy blanks <| .oneOf
    [.word 'n' ['u', 'l', 'l'] .null, .word 't' ['r', 'u', 'e'] (.bool true),
      .word 'f' ['a', 'l', 's', 'e'] (.bool false)]

/-- Items with commas between them, up to the mark that closes them. -/
def listed {α : Type} (item : Token α) (close : Char) : Reader (List α) :=
  Reader.orElse
    (do
      let first ← item.reader
      let others ← ((mark ',').andThen fun _ => item.reader).many
      let _ ← (mark close).reader
      return first :: others)
    (do
      let _ ← (mark close).reader
      return [])

/-- A value whose containers nest at most `depth` deep. -/
def value : (depth : Nat) → Token Json
  | 0 => .oneOf [stringToken.map .string, number, literal]
  | depth + 1 =>
    let entry := stringToken.andThen fun name => do
      let _ ← (mark ':').reader
      let v ← (value depth).reader
      return (name, v)
    .oneOf
      [stringToken.map .string, number, literal,
        (mark '[').andThen fun _ => do
          let items ← listed (value depth) ']'
          return .array items,
        (mark '\x7b').andThen fun _ => do
          let entries ← listed entry '\x7d'
          return .object (entries.foldl (fun members e => insert members e.1 e.2) [])]

def ofText? (s : String) : Option Json :=
  Reader.runAll? (do
    let v ← (value depthLimit).reader
    blanks
    return v) s

end SqlCompose.Json
