import SqlCompose.Text.Blank
import SqlCompose.Text.Search

/-!
# Table engines

The storage engine of a table, recognised by its name. Only the replacing engine keeps rows that a
final read merges.
-/

namespace SqlCompose

inductive Engine where
  | mergeTree
  | replacingMergeTree
  | summingMergeTree
  | aggregatingMergeTree
  | collapsingMergeTree
  | versionedCollapsingMergeTree
  | log
  | memory
  | other (name : String)
deriving DecidableEq

namespace Engine

/-- The engines that are known by name. -/
def known : List Engine :=
  [mergeTree, replacingMergeTree, summingMergeTree, aggregatingMergeTree, collapsingMergeTree,
    versionedCollapsingMergeTree, log, memory]

def name : Engine → String
  | mergeTree => "MergeTree"
  | replacingMergeTree => "ReplacingMergeTree"
  | summingMergeTree => "SummingMergeTree"
  | aggregatingMergeTree => "AggregatingMergeTree"
  | collapsingMergeTree => "CollapsingMergeTree"
  | versionedCollapsingMergeTree => "VersionedCollapsingMergeTree"
  | log => "Log"
  | memory => "Memory"
  | other name => name

/-- The word in front of the name of an engine that copies its data. -/
def replication : String := "Replicated"

/-- Reads an engine name, blanks around it and arguments after it left aside. -/
def ofName (name : String) : Engine :=
  let trimmed := Text.trimList name.toList
  let base := Text.trimList (trimmed.takeWhile (· ≠ '('))
  let plain := (Text.after? replication.toList base).getD base
  (known.find? fun e => e.name.toList = plain).getD (other (String.ofList trimmed))

def isKnown : Engine → Bool
  | other _ => false
  | _ => true

/-- The engines whose tables may be read with `FINAL`. -/
def isReplacing (e : Engine) : Bool :=
  e = replacingMergeTree

end Engine

/-- A table: its name, and the engine that stores it. -/
structure Table where
  name : String
  engine : Engine := .mergeTree

end SqlCompose
