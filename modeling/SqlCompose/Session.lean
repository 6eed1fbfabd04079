import SqlCompose.Lookup
import SqlCompose.Source

/-!
# Sessions

A session records what was sent to its sources and what was logged. Everything that runs
statements runs in a session.
-/

namespace SqlCompose

inductive Level where
  | debug
  | info
  | warn
deriving DecidableEq

/-- One entry of the log, with the table where it concerns one. -/
structure Event where
  level : Level
  message : String
  table : Option String := none
deriving DecidableEq

/-- A source under the number by which the session knows it. -/
structure Link where
  number : Nat
  source : Source

/-- The statements sent so far, each with the number of its source, and the log. -/
structure Session where
  sent : List (Nat × String) := []
  events : List Event := []

/-- A computation that may fail and leaves what it sent and logged behind. -/
abbrev Run (ε α : Type) := ExceptT ε (StateM Session) α

namespace Session

/-- The statements that one source received, in order. -/
def sentTo (number : Nat) (s : Session) : List String :=
  (s.sent.filter fun entry => entry.1 = number).map (·.2)

def log (e : Event) (s : Session) : Session :=
  { s with events := s.events ++ [e] }

def logAll (es : List Event) (s : Session) : Session :=
  { s with events := s.events ++ es }

def send (number : Nat) (sql : String) (s : Session) : Session :=
  { s with sent := s.sent ++ [(number, sql)] }

end Session

/-- The events for the suffixes that a forced operator replaces. -/
def Lookup.warnings (forced : Operator) (l : Lookup) : List Event :=
  (l.lostSuffixes forced).map fun key =>
    ⟨.warn, "Operator suffix on '" ++ key ++ "' ignored, using " ++ forced.token, none⟩

namespace Link

/-- Sends a query. The statement is recorded also when the source fails. -/
def query (link : Link) (sql : String) : Run QueryError RowStream := do
  modify (Session.send link.number sql)
  match link.source.query sql with
  | .ok stream => return stream
  | .error reason => throw (.source reason)

def execute (link : Link) (sql : String) : Run QueryError Unit := do
  modify (Session.send link.number sql)
  match link.source.execute sql with
  | .ok () => return ()
  | .error reason => throw (.source reason)

end Link

/-- The rows of a stream up to its end, or the first failure in it. -/
def RowStream.rows (stream : RowStream) : Except QueryError (List Row) :=
  stream.mapM fun
    | .ok row => .ok row
    | .error reason => .error (.source reason)

end SqlCompose
