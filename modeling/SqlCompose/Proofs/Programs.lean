import Mathlib.Logic.Function.Basic
import SqlCompose.Proofs.Calls
import SqlCompose.Proofs.Runs

/-!
# Programs over queries

A program makes, changes and runs queries step by step. Its queries stand in variables and share one
session, and a run leaves a trace with one entry for each step.
-/

namespace SqlCompose

/-- A step on the queries in variables. A query that is made from another one may be stored in any
variable, that of the other one included. -/
inductive Step (ν α : Type) where
  | make (target : ν) (table : Table) (settings : Settings) (link : Option Link)
  | clone (source target : ν)
  | call (source : ν) (c : Call) (target : ν)
  | reset (x : ν)
  | run (op : Operation) (x : ν) (decode : Row → Option α)

/-- What a step answers when it does not fail. -/
inductive Output (α : Type) where
  | done
  | row (r : Option α)
  | rows (rs : List α)
  | count (n : UInt64)

namespace Query

variable {α : Type}

/-- Runs a query in one of the ways. Only reading the next row changes it. -/
def perform (q : Query) (decode : Row → Option α) :
    Operation → StateM Session (Except QueryError (Output α) × Query)
  | .all => do return ((← (q.all decode).run).map .rows, q)
  | .first => do return ((← (q.first decode).run).map .row, q)
  | .count => do return ((← q.count.run).map .count, q)
  | .next => do
    let (r, q) ← q.next decode
    return (r.map .row, q)
  | .delete => do return ((← q.delete.run).map fun _ => .done, q)

/-- Why a call is refused. -/
def refusal? (q : Query) : Call → Option QueryError
  | .final =>
    match q.statement.final with
    | .ok _ => none
    | .error e => some e
  | _ => none

section perform

variable (q : Query) (decode : Row → Option α) (σ : Session)

lemma perform_all :
    (q.perform decode .all).run σ =
      ((((q.all decode).run.run σ).1.map .rows, q), ((q.all decode).run.run σ).2) :=
  rfl

lemma perform_first :
    (q.perform decode .first).run σ =
      ((((q.first decode).run.run σ).1.map .row, q), ((q.first decode).run.run σ).2) :=
  rfl

lemma perform_count :
    (q.perform decode .count).run σ =
      ((((q.count).run.run σ).1.map .count, q), ((q.count).run.run σ).2) :=
  rfl

lemma perform_next :
    (q.perform decode .next).run σ =
      ((((q.next decode).run σ).1.1.map .row, ((q.next decode).run σ).1.2),
        ((q.next decode).run σ).2) :=
  rfl

lemma perform_delete :
    (q.perform decode .delete).run σ =
      (((q.delete.run.run σ).1.map fun _ => .done, q), (q.delete.run.run σ).2) :=
  rfl

end perform

lemma perform_query (q : Query) (decode : Row → Option α) {op : Operation} (h : op ≠ .next)
    (σ : Session) : ((q.perform decode op).run σ).1.2 = q := by
  cases op with
  | next => contradiction
  | _ => rfl

lemma call_cursor {q : Query} {c : Call} (h : q.refusal? c = none) (σ : Session) :
    ((q.call c).run σ).1.cursor = none := by
  cases c with
  | final =>
    unfold refusal? at h
    unfold call
    cases hfinal : q.statement.final with
    | ok s => rfl
    | error e => simp [hfinal] at h
  | _ => rfl

end Query

/-- The queries in the variables, and the session that they share. -/
structure World (ν : Type) where
  query : ν → Query
  session : Session

namespace World

variable {ν α : Type} [DecidableEq ν]

def store (w : World ν) (x : ν) (q : Query) (σ : Session) : World ν where
  query := Function.update w.query x q
  session := σ

/-- One step with its answer. A call that is refused stores nothing. -/
def step (w : World ν) : Step ν α → Except QueryError (Output α) × World ν
  | .make x table settings link =>
    (.ok .done, w.store x (Query.fresh table settings link) w.session)
  | .clone x y => (.ok .done, w.store y (w.query x).reset w.session)
  | .call x c y =>
    match (w.query x).refusal? c with
    | some e => (.error e, w)
    | none =>
      let (q, σ) := ((w.query x).call c).run w.session
      (.ok .done, w.store y q σ)
  | .reset x => (.ok .done, w.store x (w.query x).reset w.session)
  | .run op x decode =>
    let ((answer, q), σ) := ((w.query x).perform decode op).run w.session
    (answer, w.store x q σ)

section

variable (w : World ν)

lemma step_run (op : Operation) (x : ν) (decode : Row → Option α) :
    w.step (.run op x decode) =
      ((((w.query x).perform decode op).run w.session).1.1,
        w.store x (((w.query x).perform decode op).run w.session).1.2
          (((w.query x).perform decode op).run w.session).2) :=
  rfl

variable {w} {x : ν} {c : Call}

lemma step_call_of_refused {e : QueryError} (h : (w.query x).refusal? c = some e) (y : ν) :
    w.step (.call x c y : Step ν α) = (.error e, w) := by
  simp only [step, h]

lemma step_call_of_accepted (h : (w.query x).refusal? c = none) (y : ν) :
    w.step (.call x c y : Step ν α) =
      (.ok .done, w.store y (((w.query x).call c).run w.session).1
        (((w.query x).call c).run w.session).2) := by
  simp only [step, h]
  rfl

end

def after (w : World ν) (steps : List (Step ν α)) : World ν :=
  steps.foldl (fun w s => (w.step s).2) w

end World

/-- A step of a run, its answer, and the statements that it sent. -/
structure Entry (ν α : Type) where
  step : Step ν α
  answer : Except QueryError (Output α)
  sent : List (Nat × String)

namespace World

variable {ν α : Type} [DecidableEq ν]

def trace (w : World ν) : List (Step ν α) → List (Entry ν α)
  | [] => []
  | s :: rest =>
    ⟨s, (w.step s).1, (w.step s).2.session.sent.drop w.session.sent.length⟩ ::
      trace (w.step s).2 rest

end World

end SqlCompose
