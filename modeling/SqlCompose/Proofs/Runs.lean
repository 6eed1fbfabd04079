import Mathlib.Tactic.Lemma
import SqlCompose.Query

/-!
# Runs of queries in a session

What each way of running a query leaves behind in its session: the statements that were sent and
the log.
-/

namespace SqlCompose

namespace Run

variable {ε α β : Type}

lemma mapError_ok (f : ε → β) (a : α) : (Except.ok a).mapError f = .ok a :=
  rfl

lemma mapError_error (f : ε → β) (e : ε) :
    (Except.error e : Except ε α).mapError f = .error (f e) :=
  rfl

lemma bind_run (x : Run ε α) (f : α → Run ε β) (σ : Session) :
    (x >>= f).run.run σ =
      match x.run.run σ with
      | (.ok a, τ) => (f a).run.run τ
      | (.error e, τ) => (.error e, τ) := by
  rw [ExceptT.run_bind, StateT.run_bind]
  rcases x.run.run σ with ⟨e | a, τ⟩ <;> rfl

lemma liftM_run (x : Except ε α) (σ : Session) :
    (liftM x : Run ε α).run.run σ = (x, σ) := by
  cases x <;> rfl

lemma mapM_liftM_run (f : α → Except ε β) (items : List α) (σ : Session) :
    (items.mapM fun a => (liftM (f a) : Run ε β)).run.run σ = (items.mapM f, σ) := by
  induction items with
  | nil => rfl
  | cons a items ih =>
    rw [List.mapM_cons, List.mapM_cons, bind_run, liftM_run]
    rcases f a with e | b
    · rfl
    · simp only []
      rw [bind_run, ih]
      rcases items.mapM f with e | bs <;> rfl

end Run

namespace Link

variable (link : Link) (sql : String) (σ : Session)

/-- A query is recorded also when the source fails. -/
theorem query_run :
    (link.query sql).run.run σ =
      ((link.source.query sql).mapError QueryError.source, σ.send link.number sql) := by
  unfold query
  rw [ExceptT.run_bind, StateT.run_bind]
  cases link.source.query sql <;> rfl

theorem execute_run :
    (link.execute sql).run.run σ =
      ((link.source.execute sql).mapError QueryError.source, σ.send link.number sql) := by
  unfold execute
  rw [ExceptT.run_bind, StateT.run_bind]
  cases link.source.execute sql <;> rfl

end Link

namespace Query

variable {α : Type} {q : Query} {link : Link}

theorem start_run (hq : q.link = some link) (op : Operation) (sql : String) (σ : Session) :
    (q.start op sql).run.run σ =
      ((link.source.query sql).mapError QueryError.source,
        (σ.logAll (q.statementEvents op sql)).send link.number sql) := by
  rw [← link.query_run]
  unfold start boundLink
  rw [hq]
  rfl

theorem start_run_of_unbound (hq : q.link = none) (op : Operation) (sql : String) (σ : Session) :
    (q.start op sql).run.run σ = (.error (.noSource q.statement.table.name), σ) := by
  unfold start boundLink
  rw [hq]
  rfl

/-- Logs a statement and sends it, whatever its source answers. -/
def dispatched (q : Query) (link : Link) (op : Operation) (sql : String) (σ : Session) : Session :=
  (σ.logAll (q.statementEvents op sql)).send link.number sql

/-- Every row is fetched before the first one is decoded. -/
theorem all_run (hq : q.link = some link) (decode : Row → Option α) (σ : Session) :
    (q.all decode).run.run σ =
      match ((link.source.query q.statement.sql).mapError .source).bind RowStream.rows with
      | .error e => (.error e, q.dispatched link .all q.statement.sql σ)
      | .ok rows => (rows.mapM (q.decodeRow decode),
          (q.dispatched link .all q.statement.sql σ).log
            ⟨.debug, "[ALL] Rows fetched: " ++ toString rows.length, none⟩) := by
  unfold all
  rw [Run.bind_run, start_run hq]
  rcases link.source.query q.statement.sql with reason | stream
  · rfl
  · simp only [Run.mapError_ok, Except.bind]
    rw [Run.bind_run, Run.liftM_run]
    rcases stream.rows with e | rows
    · rfl
    · exact Run.mapM_liftM_run _ rows _

theorem first_run (hq : q.link = some link) (decode : Row → Option α) (σ : Session) :
    (q.first decode).run.run σ =
      (((link.source.query (q.statement.limit 1).sql).mapError .source).bind fun stream =>
          stream.head?.elim (.ok none) fun item => (q.decodeItem decode item).map some,
        q.dispatched link .first (q.statement.limit 1).sql σ) := by
  unfold first
  rw [Run.bind_run, start_run hq]
  rcases link.source.query (q.statement.limit 1).sql with reason | _ | ⟨item, rest⟩
  · rfl
  · rfl
  · simp only [Run.mapError_ok, Except.bind]
    rw [Run.bind_run, Run.liftM_run, List.head?_cons, Option.elim_some]
    rcases q.decodeItem decode item with e | a <;> rfl

theorem count_run (hq : q.link = some link) (σ : Session) :
    q.count.run.run σ =
      (((link.source.query (countSql q.statement.sql)).mapError .source).bind fun stream =>
          stream.head?.elim (.error (.unexpectedResult .noRows)) fun item =>
            (q.decodeItem some item).bind readCount,
        q.dispatched link .count (countSql q.statement.sql) σ) := by
  unfold count
  rw [Run.bind_run, start_run hq]
  rcases link.source.query (countSql q.statement.sql) with reason | _ | ⟨item, rest⟩
  · rfl
  · rfl
  · simp only [Run.mapError_ok, Except.bind]
    rw [Run.bind_run, Run.liftM_run, List.head?_cons, Option.elim_some]
    rcases q.decodeItem some item with e | row
    · rfl
    · exact Run.liftM_run _ _

/-- Counting sends one statement, whatever the source answers. -/
theorem count_session (hq : q.link = some link) (σ : Session) :
    (q.count.run.run σ).2 =
      (σ.logAll (q.statementEvents .count (countSql q.statement.sql))).send link.number
        (countSql q.statement.sql) := by
  rw [count_run hq]
  rfl

/-- A query without conditions is refused before anything is logged or sent. -/
theorem delete_run_of_nil (h : q.statement.conditions = []) (σ : Session) :
    q.delete.run.run σ = (.error (.unfilteredDelete q.statement.table.name), σ) := by
  have hnone : q.statement.deletion? = none := by
    simp [Statement.deletion?, h, Condition.conjunction?]
  unfold delete
  rw [hnone]
  rfl

theorem delete_run_of_some (hq : q.link = some link) {sql : String}
    (h : q.statement.deletion? = some sql) (σ : Session) :
    q.delete.run.run σ =
      ((link.source.execute sql).mapError QueryError.source,
        (σ.logAll (q.statementEvents .delete sql)).send link.number sql) := by
  rw [← link.execute_run]
  unfold delete boundLink
  rw [h, hq]
  rfl

lemma openCursor_run_of_some {stream : RowStream} (hq : q.cursor = some stream) (σ : Session) :
    q.openCursor.run.run σ = (.ok stream, σ) := by
  unfold openCursor
  rw [hq]
  rfl

lemma openCursor_run_of_none (hq : q.cursor = none) (σ : Session) :
    q.openCursor.run.run σ = (q.start .next q.statement.sql).run.run σ := by
  unfold openCursor
  rw [hq]

/-- The next row is the first one of the open stream, and the others stay in it. -/
lemma next_eq (decode : Row → Option α) (σ : Session) :
    (q.next decode).run σ =
      (match (q.openCursor.run.run σ).1 with
        | .error e => (.error e, q)
        | .ok stream =>
          (stream.head?.elim (.ok none) fun item => (q.decodeItem decode item).map some,
            { q with cursor := some stream.tail }),
        (q.openCursor.run.run σ).2) := by
  unfold next
  rw [StateT.run_bind]
  rcases q.openCursor.run.run σ with ⟨_ | _ | ⟨item, rest⟩, τ⟩ <;> rfl

lemma all_run_of_unbound (hq : q.link = none) (decode : Row → Option α) (σ : Session) :
    (q.all decode).run.run σ = (.error (.noSource q.statement.table.name), σ) := by
  unfold all
  rw [Run.bind_run, start_run_of_unbound hq]

lemma first_run_of_unbound (hq : q.link = none) (decode : Row → Option α) (σ : Session) :
    (q.first decode).run.run σ = (.error (.noSource q.statement.table.name), σ) := by
  unfold first
  rw [Run.bind_run, start_run_of_unbound hq]

lemma count_run_of_unbound (hq : q.link = none) (σ : Session) :
    q.count.run.run σ = (.error (.noSource q.statement.table.name), σ) := by
  unfold count
  rw [Run.bind_run, start_run_of_unbound hq]

end Query

end SqlCompose
