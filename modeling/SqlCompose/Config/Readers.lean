import SqlCompose.Config.Basic
import SqlCompose.Config.Directory
import SqlCompose.Config.Environment

/-!
# Readers of files

A configuration comes from files of two kinds: documents that hold one, and environment files that add
variables to those of the process. It can be loaded with any readers of them.
-/

namespace SqlCompose

/-- What loading an environment file comes to: other variables, no file, a file that is refused, or the
end of the process. -/
inductive Loading where
  | loaded (env : Environment)
  | missing
  | refused
  | stopped
deriving DecidableEq

structure Readers where
  /-- The configuration that a document holds, valid or not. -/
  document? : String → Option Config
  /-- Loads the environment file into the variables of the process. -/
  environment : Files → Environment → Loading

end SqlCompose
