import SqlCompose.Proofs.ConditionTree
import SqlCompose.Query

/-!
# Chains of calls

The calls that build a query as data. A chain of calls changes the statement call by call, sends
nothing, and adds the conditions of its calls one after the other.
-/

namespace SqlCompose

inductive Call where
  | filter (input : Filter)
  | exclude (l : Lookup)
  | having (l : Lookup)
  | project (columns : List String)
  | aggregate (items : List (String × Aggregate))
  | sort (order : RowOrder)
  | groupBy (fields : List String)
  | limit (n : UInt64)
  | offset (n : UInt64)
  | final
  | withSettings (settings : Settings)
  | bindTo (link : Link)

/-- The statement after a call. A refused final read leaves it as it was. -/
def Statement.call (s : Statement) : Call → Statement
  | .filter input => s.filter input
  | .exclude l => s.exclude l
  | .having l => s.having l
  | .project columns => s.project columns
  | .aggregate items => s.aggregate items
  | .sort order => s.sort order
  | .groupBy fields => s.groupBy fields
  | .limit n => s.limit n
  | .offset n => s.offset n
  | .final => s.final.toOption.getD s
  | .withSettings settings => s.withSettings settings
  | .bindTo _ => s

def Query.fresh (table : Table) (settings : Settings) (link : Option Link) : Query where
  statement := { table, settings }
  link

def Query.call (q : Query) : Call → StateM Session Query
  | .exclude l => q.exclude l
  | .final =>
    match q.statement.final with
    | .ok s => return q.derive fun _ => s
    | .error _ => return q
  | .bindTo link => return q.bindTo link
  | c => return q.derive (·.call c)

def Query.calls (q : Query) (cs : List Call) : StateM Session Query :=
  cs.foldlM Query.call q

/-- The query over one table that a chain of calls builds in a session. -/
def Query.build (table : Table) (settings : Settings) (start : Option Link) (cs : List Call)
    (σ : Session) : Query :=
  (((fresh table settings start).calls cs).run σ).1

namespace Query

lemma call_statement (q : Query) (c : Call) (σ : Session) :
    ((q.call c).run σ).1.statement = q.statement.call c := by
  cases c with
  | final =>
    unfold call Statement.call
    cases q.statement.final <;> rfl
  | _ => rfl

lemma call_sent (q : Query) (c : Call) (σ : Session) : ((q.call c).run σ).2.sent = σ.sent := by
  cases c with
  | final =>
    unfold call
    cases q.statement.final <;> rfl
  | _ => rfl

lemma calls_cons (q : Query) (c : Call) (cs : List Call) (σ : Session) :
    (q.calls (c :: cs)).run σ =
      ((((q.call c).run σ).1.calls cs).run ((q.call c).run σ).2) := by
  rw [calls, List.foldlM_cons, StateT.run_bind]
  rfl

theorem calls_statement (q : Query) (cs : List Call) (σ : Session) :
    ((q.calls cs).run σ).1.statement = cs.foldl Statement.call q.statement := by
  induction cs generalizing q σ with
  | nil => rfl
  | cons c cs ih => rw [calls_cons, ih, call_statement, List.foldl_cons]

lemma build_statement (table : Table) (settings : Settings) (start : Option Link) (cs : List Call)
    (σ : Session) :
    (build table settings start cs σ).statement = cs.foldl Statement.call { table, settings } :=
  calls_statement (fresh table settings start) cs σ

end Query

/-- The conjunction of conditions as the conditions of a statement; one needs no group. -/
def Condition.conjoin : List Condition → List Condition
  | [] => []
  | [only] => [only]
  | several => [.all several]

lemma Condition.leaves_conjoin (cs : List Condition) :
    (conjoin cs).flatMap leaves = cs.flatMap leaves := by
  unfold conjoin
  rcases cs with _ | ⟨first, _ | ⟨second, rest⟩⟩ <;> simp

lemma Lookup.leaves_condition? (forced : Option Operator) (l : Lookup) :
    (l.condition? forced).toList.flatMap Condition.leaves = l.flatten forced none := by
  rw [condition?]
  rcases l.flatten forced none with _ | ⟨first, rest⟩
  · rfl
  · simp [List.flatMap_map]

def Call.conditions : Call → List Condition
  | .filter input => Condition.conjoin input.conditions
  | .exclude l => (l.condition? (some .ne)).toList
  | _ => []

def Call.groupConditions : Call → List Condition
  | .having l => (l.condition? none).toList
  | _ => []

namespace Statement

def groupConditions (s : Statement) : List Condition :=
  (s.grouping.getD {}).having

lemma filter_eq (s : Statement) (input : Filter) :
    s.filter input =
      { s with conditions := s.conditions ++ Condition.conjoin input.conditions } := by
  unfold filter Condition.conjoin
  rcases input.conditions with _ | ⟨first, _ | ⟨second, rest⟩⟩ <;> simp

lemma call_final (s : Statement) :
    s.call .final = if s.table.engine.isReplacing then { s with isFinal := true } else s := by
  rw [call, final]
  split <;> rfl

lemma call_table (s : Statement) (c : Call) : (s.call c).table = s.table := by
  cases c with
  | filter input => rw [call, filter_eq]
  | final => rw [call_final]; split <;> rfl
  | _ => rfl

lemma call_conditions (s : Statement) (c : Call) :
    (s.call c).conditions = s.conditions ++ c.conditions := by
  cases c with
  | filter input => rw [call, filter_eq, Call.conditions]
  | exclude l => rfl
  | final => rw [call_final]; split <;> simp [Call.conditions]
  | _ => simp [call, Call.conditions, having, project, aggregate, sort, groupBy, limit, offset,
      withSettings]

lemma call_groupConditions (s : Statement) (c : Call) :
    (s.call c).groupConditions = s.groupConditions ++ c.groupConditions := by
  cases c with
  | filter input => rw [call, filter_eq]; simp [groupConditions, Call.groupConditions]
  | having l => rfl
  | final => rw [call_final]; split <;> simp [groupConditions, Call.groupConditions]
  | _ => simp [groupConditions, call, Call.groupConditions, exclude, project, aggregate, sort,
      groupBy, limit, offset, withSettings]

/-- What each call adds to a part of the statement, a chain of calls adds in order. -/
theorem foldl_call_of_step {α : Type} {part : Statement → List α} {added : Call → List α}
    (hstep : ∀ s c, part (call s c) = part s ++ added c) (s : Statement) (cs : List Call) :
    part (cs.foldl call s) = part s ++ cs.flatMap added := by
  induction cs generalizing s with
  | nil => simp
  | cons c cs ih => rw [List.foldl_cons, ih, hstep, List.flatMap_cons, List.append_assoc]

theorem foldl_call_conditions (s : Statement) (cs : List Call) :
    (cs.foldl call s).conditions = s.conditions ++ cs.flatMap Call.conditions :=
  foldl_call_of_step call_conditions s cs

theorem foldl_call_groupConditions (s : Statement) (cs : List Call) :
    (cs.foldl call s).groupConditions =
      s.groupConditions ++ cs.flatMap Call.groupConditions :=
  foldl_call_of_step call_groupConditions s cs

end Statement

end SqlCompose
