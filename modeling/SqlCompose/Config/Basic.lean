import SqlCompose.Settings

/-!
# Configuration

How a database is reached and how statements are written, and when such a configuration is valid.
-/

namespace SqlCompose

/-- How a database is reached. -/
structure Database where
  host : String
  port : UInt16
  name : String
  username : String
  password : String := ""
  secure : Bool := false
  timeoutSeconds : UInt64
  maxConnections : UInt32
deriving DecidableEq

def Database.url (d : Database) : String :=
  (if d.secure then "https" else "http") ++ "://" ++ d.host ++ ":" ++ toString d.port.toNat

structure Config where
  database : Database
  query : Settings := {}
deriving DecidableEq

/-- Why a configuration is refused. -/
inductive ConfigFault where
  | emptyHost
  | zeroPort
  | emptyDatabase
  | emptyUsername
  | zeroConnections
  | zeroTimeout
  | noFile
deriving DecidableEq

def ConfigFault.message : ConfigFault → String
  | emptyHost => "Database host cannot be empty"
  | zeroPort => "Database port cannot be zero"
  | emptyDatabase => "Database name cannot be empty"
  | emptyUsername => "Database username cannot be empty"
  | zeroConnections => "Database max_connections must be greater than 0"
  | zeroTimeout => "Database connection_timeout_seconds must be greater than 0"
  | noFile => "Config path must be specified as CLICKHAUS_CONFIG or in ./clickhaus.toml file"

/-- Why no configuration is loaded. -/
inductive ConfigError where
  | unreadable
  | malformed
  | badVariable
  | badEnvironmentFile
  | invalid (fault : ConfigFault)
deriving DecidableEq

def ConfigError.message : ConfigError → String
  | unreadable => "IO error"
  | malformed => "TOML parsing error"
  | badVariable => "Environment variable error"
  | badEnvironmentFile => "Environment file error"
  | invalid fault => "Invalid configuration: " ++ fault.message

/-- The first reason against a configuration. -/
def Config.fault? (c : Config) : Option ConfigFault :=
  let d := c.database
  if d.host = "" then some .emptyHost
  else if d.port = 0 then some .zeroPort
  else if d.name = "" then some .emptyDatabase
  else if d.username = "" then some .emptyUsername
  else if d.maxConnections = 0 then some .zeroConnections
  else if d.timeoutSeconds = 0 then some .zeroTimeout
  else none

def Config.validate (c : Config) : Except ConfigError Config :=
  match c.fault? with
  | some fault => .error (.invalid fault)
  | none => .ok c

end SqlCompose
