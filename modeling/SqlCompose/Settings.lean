/-!
# Settings of statements
-/

namespace SqlCompose

/-- How statements are written and logged. -/
structure Settings where
  /-- Escapes backslashes and quotes inside literals. -/
  escapeStrings : Bool := true
  /-- Logs every statement that is sent as information. -/
  logQueries : Bool := false
deriving DecidableEq

end SqlCompose
