/-!
# Environments

The variables of a process.
-/

namespace SqlCompose

/-- A variable of the process is a text, or bytes that are none. -/
inductive Variable where
  | text (s : String)
  | undecodable
deriving DecidableEq

/-- The variables of the process by name; the first entry of a name counts. -/
abbrev Environment := List (String × Variable)

def Environment.get? (env : Environment) (name : String) : Option Variable :=
  (env.find? fun entry => entry.1 = name).map (·.2)

end SqlCompose
