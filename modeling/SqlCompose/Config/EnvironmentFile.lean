import SqlCompose.Config.Readers
import SqlCompose.Text.Alphanumeric
import SqlCompose.Text.Blank

/-!
# Environment files

A reader of environment files: one assignment a line, whose value may be quoted, escaped, continued on
further lines, and refer to variables by name.
-/

namespace SqlCompose

namespace Environment

/-- The text of a variable that has one. -/
def text? (env : Environment) (name : String) : Option String :=
  match env.get? name with
  | some (.text s) => some s
  | _ => none

/-- Sets a variable that has no text. -/
def setIfMissing (env : Environment) (name value : String) : Environment :=
  if (env.text? name).isSome then env else (name, .text value) :: env

end Environment

namespace EnvironmentFile

/-- Where the next character of an assignment stands. -/
inductive Place where
  | plain
  | blank
  | escape
  | single
  | singleEscape
  | double
  | doubleEscape
  | comment
deriving DecidableEq

/-- The place after a character. A comment starts at a `#` after a blank. -/
def Place.step (place : Place) (c : Char) : Place :=
  let outside : Char → Place
    | '\\' => escape
    | '"' => double
    | '\'' => single
    | _ => plain
  match place with
  | comment => comment
  | blank => if c = '#' then comment else outside c
  | plain => if Text.isBlank c && c ≠ '\n' && c ≠ '\r' then blank else outside c
  | escape => plain
  | double => if c = '\\' then doubleEscape else if c = '"' then plain else double
  | doubleEscape => double
  | single => if c = '\\' then singleEscape else if c = '\'' then plain else single
  | singleEscape => single

/-- The part of a line before a comment, and the place at its end. -/
def scan (place : Place) : List Char → List Char × Place
  | [] => ([], place)
  | c :: rest =>
    match place.step c with
    | .comment => ([], .comment)
    | next =>
      let (kept, last) := scan next rest
      (c :: kept, last)

/-- The lines of a text, each with its line end. -/
def physicalLines : List Char → List (List Char)
  | [] => []
  | c :: rest =>
    if c = '\n' then [c] :: physicalLines rest
    else
      match physicalLines rest with
      | [] => [[c]]
      | first :: others => (c :: first) :: others

def dropLineEnd (cs : List Char) : List Char :=
  match cs.reverse with
  | '\n' :: '\r' :: rest => rest.reverse
  | '\n' :: rest => rest.reverse
  | _ => cs

/-- The lines that make assignments: a line that ends inside quotes, after a blank or in an escape goes on
with the next one, and there is none in the place of a last line that cannot go on. -/
def logicalLines (held : List Char) (place : Place) :
    List (List Char) → List (Option (List Char))
  | [] => if place = .plain then [] else [none]
  | line :: rest =>
    let whole := held ++ line
    if (whole.dropWhile Text.isBlank).head? = some '#' then
      some [] :: logicalLines [] .plain rest
    else
      match scan place line with
      | (_, .plain) => some (dropLineEnd whole) :: logicalLines [] .plain rest
      | (kept, .comment) => some (held ++ kept) :: logicalLines [] .plain rest
      | (_, next) => logicalLines whole next rest

/-- What the characters of a value stand for so far. -/
structure Draft where
  output : List Char := []
  inSingle : Bool := false
  inDouble : Bool := false
  escaped : Bool := false
  atEnd : Bool := false
  /-- The name of a variable that is being read, and whether it stands in braces. -/
  reference : Option (List Char × Bool) := none

/-- Puts the value of a referenced variable in the place of its name. -/
def Draft.resolve (env : Environment) (d : Draft) : Draft :=
  match d.reference with
  | some (name, _) =>
    { d with
      output := d.output ++ ((env.text? (String.ofList name)).getD "").toList
      reference := none }
  | none => d

def Draft.push (d : Draft) (c : Char) : Draft :=
  { d with output := d.output ++ [c] }

/-- Reads one character of a value. After an unquoted blank only blanks and a comment may follow. -/
def Draft.step (env : Environment) (d : Draft) (c : Char) : Option Draft :=
  if d.atEnd then
    if c = ' ' || c = '\t' then some d else none
  else if d.escaped then
    let d := { d with escaped := false }
    if c = 'n' then some (d.push '\n')
    else if c = '\\' || c = '\'' || c = '"' || c = '$' || c = ' ' then some (d.push c)
    else none
  else if d.inSingle then
    some (if c = '\'' then { d with inSingle := false } else d.push c)
  else
    match d.reference with
    | some (name, braced) =>
      if Text.isAlphanumeric c || (braced && c ≠ '\x7d') then
        some { d with reference := some (name ++ [c], braced) }
      else if braced then some (d.resolve env)
      else if c = '\x7b' && name.isEmpty then some { d with reference := some ([], true) }
      else if c = '$' then some { d.resolve env with reference := some ([], false) }
      else some ((d.resolve env).push c)
    | none =>
      if c = '$' then some { d with reference := some ([], false) }
      else if d.inDouble then
        if c = '"' then some { d with inDouble := false }
        else if c = '\\' then some { d with escaped := true }
        else some (d.push c)
      else if c = '\'' then some { d with inSingle := true }
      else if c = '"' then some { d with inDouble := true }
      else if c = '\\' then some { d with escaped := true }
      else if c = ' ' || c = '\t' then some { d with atEnd := true }
      else some (d.push c)

/-- Reads a value up to its end or to a comment. -/
def readValue (env : Environment) (d : Draft) : List Char → Option String
  | [] =>
    let braced := d.reference.any (·.2)
    if braced || d.inSingle || d.inDouble then none
    else some (String.ofList (d.resolve env).output)
  | c :: rest =>
    if d.atEnd && c = '#' then some (String.ofList d.output)
    else (d.step env c).bind fun d => readValue env d rest

def skipBlanks (cs : List Char) : List Char :=
  cs.dropWhile Text.isBlank

/-- A name and what follows it. -/
def readKey? (cs : List Char) : Option (String × List Char) :=
  match cs with
  | [] => none
  | c :: _ =>
    if c.isAlpha || c = '_' then
      let isKeyChar := fun (c : Char) => c.isAlphanum || c = '_' || c = '.'
      some (String.ofList (cs.takeWhile isKeyChar), skipBlanks (cs.dropWhile isKeyChar))
    else none

/-- A name and what follows its equality sign. The word `export` may stand before a name, and may be
a name itself. -/
def readAssigned? (cs : List Char) : Option (String × List Char) := do
  let (key, rest) ← readKey? cs
  match rest with
  | '=' :: value => return (key, value)
  | _ =>
    if key ≠ "export" then none
    let (key, rest) ← readKey? rest
    match rest with
    | '=' :: value => return (key, value)
    | _ => none

/-- The assignment that a line makes, if it makes one; a line that is malformed is refused. -/
def readLine? (env : Environment) (line : List Char) : Option (Option (String × String)) :=
  let cs := skipBlanks (Text.trimEnd line)
  if cs.isEmpty || cs.head? = some '#' then some none
  else do
    let (key, rest) ← readAssigned? cs
    let rest := skipBlanks rest
    if rest.isEmpty || rest.head? = some '#' then return some (key, "")
    let value ← readValue env {} rest
    return some (key, value)

/-- The lines of a text, after the mark of a byte order that may stand in front. -/
def lines (text : String) : List (Option (List Char)) :=
  let cs := match text.toList with
    | '\ufeff' :: rest => rest
    | cs => cs
  logicalLines [] .plain (physicalLines cs)

/-- Makes the assignments of lines one after the other. Variables that have a text keep it, and setting
a variable to a value with a NUL ends the process. -/
def loadLines (env : Environment) : List (Option (List Char)) → Loading
  | [] => .loaded env
  | none :: _ => .refused
  | some line :: rest =>
    match readLine? env line with
    | none => .refused
    | some none => loadLines env rest
    | some (some (name, value)) =>
      if env.text? name = none ∧ '\x00' ∈ value.toList then .stopped
      else loadLines (env.setIfMissing name value) rest

/-- Loads the environment file, which has to be a text. -/
def load (f : Files) (env : Environment) : Loading :=
  match f.environment? with
  | none => .missing
  | some bytes =>
    match String.fromUTF8? bytes with
    | some text => loadLines env (lines text)
    | none => .refused

end EnvironmentFile

end SqlCompose
