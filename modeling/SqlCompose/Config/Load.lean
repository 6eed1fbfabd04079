import SqlCompose.Config.Readers

/-!
# Loading a configuration

A configuration comes from one file: the one that a variable names, or else the default one. The
variable may be set by an environment file.
-/

namespace SqlCompose.Config

/-- The variable that names the configuration file. -/
def pathVariable : String := "CLICKHAUS_CONFIG"

def defaultPath : String := "./clickhaus.toml"

variable (r : Readers)

/-- The valid configuration of a text. -/
def ofText (text : String) : Except ConfigError Config :=
  match r.document? text with
  | some c => c.validate
  | none => .error .malformed

/-- The configuration of the file at a path. -/
def fromFile (f : Files) (path : String) : Except ConfigError Config :=
  match f.text? path with
  | some text => ofText r text
  | none => .error .unreadable

/-- The configuration of the default file, which has to be there. -/
def fromDefaultFile (f : Files) : Except ConfigError Config :=
  if f.exists? defaultPath then fromFile r f defaultPath else .error (.invalid .noFile)

/-- The configuration under the variable that names its file. -/
def fromVariable (f : Files) : Option Variable → Except ConfigError Config
  | some (.text path) => fromFile r f path
  | some .undecodable => .error .badVariable
  | none => fromDefaultFile r f

/-- The configuration that a process finds under its variables, unless loading ends the process. A
missing environment file adds no variables, and one that is refused is an error. -/
def load (f : Files) (env : Environment) : Option (Except ConfigError Config) :=
  match r.environment f env with
  | .loaded env => some (fromVariable r f (env.get? pathVariable))
  | .missing => some (fromVariable r f (env.get? pathVariable))
  | .refused => some (.error .badEnvironmentFile)
  | .stopped => none

end SqlCompose.Config
