import SqlCompose.Config.EnvironmentFile
import SqlCompose.Toml.Reader

/-!
# Configuration documents

A reader of configurations from TOML documents, which have a table for the database and perhaps one for
the settings.
-/

namespace SqlCompose

namespace Toml

/-- The values of the named fields of a record. A record is written as a table by name, whose other
entries have to be sound, or as an array by position, whose further items do not matter; a date has
none of the fields. -/
def Value.fields? (names : List String) : Value → Option (List (String × Value))
  | .table entries =>
    if entries.all fun e => names.contains e.1 || e.2.isSound then some entries else none
  | .array items => some (names.zip items)
  | .time => some []
  | _ => none

def field? (name : String) (fields : List (String × Value)) : Option Value :=
  (fields.find? fun f => f.1 = name).map (·.2)

def Value.text? : Value → Option String
  | .text s => some s
  | _ => none

def Value.bool? : Value → Option Bool
  | .bool b => some b
  | _ => none

def Value.below? (bound : Nat) : Value → Option Nat
  | .integer n => if 0 ≤ n ∧ n < bound then some n.toNat else none
  | _ => none

def required? {α : Type} (read : Value → Option α) (name : String)
    (fields : List (String × Value)) : Option α :=
  (field? name fields).bind read

/-- A field with a value for where it is missing. -/
def optional? {α : Type} (read : Value → Option α) (name : String) (missing : α)
    (fields : List (String × Value)) : Option α :=
  match field? name fields with
  | some v => read v
  | none => some missing

end Toml

open Toml

def Settings.ofToml? (v : Value) : Option Settings := do
  let fields ← v.fields? ["escape_strings", "log_queries"]
  let defaults : Settings := {}
  return {
    escapeStrings := ← optional? Value.bool? "escape_strings" defaults.escapeStrings fields
    logQueries := ← optional? Value.bool? "log_queries" defaults.logQueries fields }

def Database.ofToml? (v : Value) : Option Database := do
  let fields ← v.fields? ["host", "port", "database", "username", "password", "secure",
    "connection_timeout_seconds", "max_connections"]
  let port ← required? (Value.below? UInt16.size) "port" fields
  let timeout ← required? (Value.below? UInt64.size) "connection_timeout_seconds" fields
  let connections ← required? (Value.below? UInt32.size) "max_connections" fields
  return {
    host := ← required? Value.text? "host" fields
    port := UInt16.ofNat port
    name := ← required? Value.text? "database" fields
    username := ← required? Value.text? "username" fields
    password := ← optional? Value.text? "password" "" fields
    secure := ← optional? Value.bool? "secure" false fields
    timeoutSeconds := UInt64.ofNat timeout
    maxConnections := UInt32.ofNat connections }

/-- The configuration of a document, valid or not. -/
def Config.ofToml? (entries : List (String × Value)) : Option Config := do
  let fields ← (Value.table entries).fields? ["database", "query"]
  return {
    database := ← required? Database.ofToml? "database" fields
    query := ← optional? Settings.ofToml? "query" {} fields }

/-- The readers of TOML documents and of environment files. -/
def Readers.standard : Readers where
  document? := fun text => (Toml.ofText? text).bind Config.ofToml?
  environment := EnvironmentFile.load

end SqlCompose
