/-!
# Table names

A table name is an identifier, or two with a point between them. Reserved words are no identifiers.
-/

namespace SqlCompose.TableName

/-- Why a text is no table name. -/
inductive Fault where
  | empty
  | tooManySegments (name : String)
  | emptySegment
  | badStart (segment : String)
  | badCharacter (segment : String)
  | reserved (segment : String)
deriving DecidableEq

def Fault.message : Fault → String
  | empty => "Name cannot be empty"
  | tooManySegments name =>
    "Name '" ++ name ++ "' has too many segments: expected `table` or `database.table`"
  | emptySegment => "Name segment cannot be empty"
  | badStart segment => "Name '" ++ segment ++ "' must start with a letter or underscore"
  | badCharacter segment =>
    "Name '" ++ segment ++ "' contains invalid characters: " ++
      "only alphanumeric characters and underscores are allowed"
  | reserved segment => "Name '" ++ segment ++ "' is a reserved SQL keyword"

/-- The words that a statement would not take as a name. -/
def keywords : List String :=
  ["SELECT", "INSERT", "UPDATE", "DELETE", "FROM", "WHERE", "JOIN", "ON", "AS", "AND", "OR", "NOT",
    "NULL", "IN", "LIKE", "BETWEEN", "ORDER", "BY", "GROUP", "HAVING", "LIMIT", "OFFSET", "UNION",
    "ALL", "DISTINCT", "ALTER", "TABLE", "FINAL", "PREWHERE", "SAMPLE", "ARRAY", "SETTINGS",
    "FORMAT", "GLOBAL", "ANY", "ASOF"]

/-- A reserved word in any letter case. -/
def isReserved (segment : List Char) : Bool :=
  keywords.any fun word => word.toList = segment.map Char.toUpper

def startsName (c : Char) : Bool :=
  c.isAlpha || c = '_'

def continuesName (c : Char) : Bool :=
  c.isAlphanum || c = '_'

def checkSegment : List Char → Except Fault Unit
  | [] => .error .emptySegment
  | c :: rest =>
    let segment := String.ofList (c :: rest)
    if !startsName c then .error (.badStart segment)
    else if !(c :: rest).all continuesName then .error (.badCharacter segment)
    else if isReserved (c :: rest) then .error (.reserved segment)
    else .ok ()

/-- Accepts a table name, or gives the first reason against it. -/
def check (name : String) : Except Fault Unit :=
  if name = "" then .error .empty
  else
    let segments := name.toList.splitOn '.'
    if 2 < segments.length then .error (.tooManySegments name)
    else segments.forM checkSegment

end SqlCompose.TableName
