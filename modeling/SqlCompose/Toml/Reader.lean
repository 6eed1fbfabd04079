import SqlCompose.Text.Reader
import SqlCompose.Toml.Document
import SqlCompose.Toml.Scalar

/-!
# Reading TOML text

The grammar of lines, keys and values. Arrays and inline tables nest to a fixed depth.
-/

namespace SqlCompose.Toml

open Text

/-- How deep arrays and inline tables may nest, and how many parts a key may have. -/
def depthLimit : Nat := 80

def isSpace (c : Char) : Bool :=
  c = ' ' || c = '\t'

/-- The characters of comments and literal texts: no control character but the tab. -/
def isPlain (c : Char) : Bool :=
  c = '\t' || (0x20 ≤ c.toNat && c.toNat ≠ 0x7F)

def spaces : Reader Unit := do
  let _ ← Reader.takeWhile isSpace

/-- A line end of one or two characters, as it stands. -/
def newline : Token (List Char) :=
  .orElse ((Token.char '\n').map fun c => [c])
    ((Token.char '\r').andThen fun _ => do
      let _ ← (Token.char '\n').reader
      return ['\r', '\n'])

def comment : Token (List Char) :=
  (Token.char '#').andThen fun _ => Reader.takeWhile isPlain

/-- Spaces, comments and line ends. -/
def gap : Reader Unit := do
  let _ ← Token.many (.oneOf [(Token.charWhere isSpace).map fun c => [c], newline, comment])

def lineEnd : Reader Unit := do
  spaces
  let _ ← comment.optional
  Reader.orElse (do let _ ← newline.reader) Reader.atEnd

/-- A character given by its number in hexadecimal digits. -/
def numbered (width : Nat) : Reader Char := do
  let ds ← (List.replicate width ()).mapM fun _ =>
    (Token.charWhere fun c => (hexValue? c).isSome).reader
  let n := ds.foldl (fun n c => n * 16 + (hexValue? c).getD 0) 0
  if n.isValidChar then return Char.ofNat n else Reader.refuse

def escaped : Reader Char := do
  let c ← (Token.charWhere fun _ => true).reader
  match c with
  | '"' | '\\' => return c
  | 'b' => return '\x08'
  | 't' => return '\t'
  | 'n' => return '\n'
  | 'f' => return '\x0c'
  | 'r' => return '\r'
  | 'e' => return '\x1b'
  | 'x' => numbered 2
  | 'u' => numbered 4
  | 'U' => numbered 8
  | _ => Reader.refuse

def escape : Token (List Char) :=
  ((Token.char '\\').andThen fun _ => escaped).map fun c => [c]

def basicText : Token String :=
  (Token.char '"').andThen fun _ => do
    let body ← Token.many <| .orElse
      ((Token.charWhere fun c => isPlain c && c ≠ '"' && c ≠ '\\').map fun c => [c]) escape
    let _ ← (Token.char '"').reader
    return String.ofList body.flatten

def literalText : Token String :=
  (Token.char '\'').andThen fun _ => do
    let body ← Reader.takeWhile fun c => isPlain c && c ≠ '\''
    let _ ← (Token.char '\'').reader
    return String.ofList body

/-- Three quotes in a row. -/
def tripled (quote : Char) : Token Unit :=
  .word quote [quote, quote] ()

/-- A quote that does not start three in a row. -/
def loneQuote (quote : Char) : Token (List Char) :=
  .precededBy (.notAhead [quote, quote, quote]) ((Token.char quote).map fun c => [c])

/-- A backslash at the end of a line, with the blanks up to the next character. -/
def continuation : Token (List Char) :=
  (Token.char '\\').andThen fun _ => do
    spaces
    let _ ← newline.reader
    let _ ← Token.many (.orElse ((Token.charWhere isSpace).map fun c => [c]) newline)
    return []

/-- A text over several lines. A line end right after the opening quotes is dropped, and one or two
quotes may stand before the closing ones. -/
def longText (quote : Char) (item : Token (List Char)) : Token String :=
  (tripled quote).andThen fun _ => do
    let _ ← newline.optional
    let body ← Token.many (.oneOf [item, newline, loneQuote quote])
    let _ ← (tripled quote).reader
    let fourth ← (Token.char quote).optional
    let fifth ← (Token.char quote).optional
    return String.ofList (body.flatten ++ fourth.toList ++ fifth.toList)

def longBasicText : Token String :=
  longText '"' <| .oneOf
    [(Token.charWhere fun c => isPlain c && c ≠ '"' && c ≠ '\\').map fun c => [c],
      continuation, escape]

def longLiteralText : Token String :=
  longText '\'' ((Token.charWhere fun c => isPlain c && c ≠ '\'').map fun c => [c])

def bareKey : Token String :=
  let isKeyChar := fun (c : Char) => c.isAlphanum || c = '_' || c = '-'
  (Token.charWhere isKeyChar).andThen fun first => do
    let rest ← Reader.takeWhile isKeyChar
    return String.ofList (first :: rest)

def simpleKey : Token String :=
  .oneOf [bareKey, basicText, literalText]

def key : Token (List String) :=
  simpleKey.andThen fun first => do
    let rest ← Token.many <| .precededBy spaces <| (Token.char '.').andThen fun _ => do
      spaces
      simpleKey.reader
    if rest.length < depthLimit then return first :: rest else Reader.refuse

/-- A scalar without quotes. A date may be followed by one space and a time. -/
def scalar : Token Value :=
  (Token.charWhere isScalarChar).andThen fun first => do
    let rest ← Reader.takeWhile isScalarChar
    let front := first :: rest
    let time ← (if date? front = some [] then
        ((Token.char ' ').andThen fun space => do
          let digit ← (Token.charWhere Char.isDigit).reader
          let others ← Reader.takeWhile isScalarChar
          return space :: digit :: others).optional
      else return none)
    Reader.ofOption (scalar? (front ++ time.getD []))

/-- Items between marks, with commas between them and perhaps after the last one. -/
def listed {α : Type} (left right : Char) (item : Token α) : Token (List α) :=
  (Token.char left).andThen fun _ => do
    gap
    let items ← Reader.orElse
      (do
        let first ← item.reader
        let others ← Token.many <| .precededBy gap <| (Token.char ',').andThen fun _ => do
          gap
          item.reader
        gap
        let _ ← (Token.char ',').optional
        return first :: others)
      (return [])
    gap
    let _ ← (Token.char right).reader
    return items

/-- A key and the value assigned to it, with what may stand around the sign between them. -/
def assignment (between : Reader Unit) (value : Token Value) : Token (List String × Value) :=
  key.andThen fun path => do
    between
    let _ ← (Token.char '=').reader
    between
    let v ← value.reader
    return (path, v)

/-- A value that holds no other values. -/
def plainValue : Token Value :=
  .oneOf
    [.map .text longBasicText, .map .text longLiteralText, .map .text basicText,
      .map .text literalText, scalar]

/-- A value whose containers nest at most `depth` deep. -/
def value : (depth : Nat) → Token Value
  | 0 => plainValue
  | depth + 1 =>
    let inner := value depth
    .oneOf
      [plainValue, .map .array (listed '[' ']' inner),
        (listed '\x7b' '\x7d' (assignment gap inner)).andThen fun assignments =>
          Reader.ofOption (inlineTable? assignments)]

/-- The path between the brackets of a header. -/
def headerPath : Reader (List String) := do
  spaces
  let path ← key.reader
  spaces
  return path

def tableHeader : Token Line :=
  (Token.char '[').andThen fun _ => do
    let path ← headerPath
    let _ ← (Token.char ']').reader
    return .table path

def elementHeader : Token Line :=
  (Token.word '[' ['['] ()).andThen fun _ => do
    let path ← headerPath
    let _ ← (Token.word ']' [']'] ()).reader
    return .element path

/-- A line with what stands empty before it. -/
def line : Token Line :=
  (Token.precededBy gap <| .oneOf
    [elementHeader, tableHeader,
      (assignment spaces (value depthLimit)).map fun a => .assign a.1 a.2]).andThen fun l => do
    lineEnd
    return l

/-- The lines of a document, perhaps after a byte order mark. -/
def lines : Reader (List Line) := do
  let _ ← (Token.char (Char.ofNat 0xFEFF)).optional
  let ls ← line.many
  gap
  return ls

def ofText? (s : String) : Option (List (String × Value)) :=
  (lines.runAll? s).bind ofLines?

end SqlCompose.Toml
