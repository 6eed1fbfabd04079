import Mathlib.Tactic.Lemma
import SqlCompose.Condition.Clause

/-!
# Condition trees

Induction over condition trees, the comparisons at their leaves, and the text of a group for each
number of its members.
-/

namespace SqlCompose.Condition

/-- Induction over a tree, with the claim for every member of a group. -/
theorem induct {motive : Condition → Prop} (leaf : ∀ c, motive (.leaf c))
    (group : ∀ joiner negated members, (∀ m ∈ members, motive m) →
      motive (.group joiner negated members)) (c : Condition) : motive c := by
  cases c with
  | leaf c => exact leaf c
  | group joiner negated members =>
    exact group joiner negated members fun m _ => induct leaf group m
termination_by sizeOf c

mutual

/-- The comparisons of a tree, depth first. -/
def leaves : Condition → List Comparison
  | leaf c => [c]
  | group _ _ members => leavesOfList members

def leavesOfList : List Condition → List Comparison
  | [] => []
  | c :: rest => leaves c ++ leavesOfList rest

end

lemma leavesOfList_eq_flatMap (cs : List Condition) : leavesOfList cs = cs.flatMap leaves := by
  induction cs with
  | nil => rfl
  | cons c rest ih => simp [leavesOfList, ih]

@[simp] lemma leaves_leaf (c : Comparison) : (leaf c).leaves = [c] := by
  simp [leaves]

@[simp] lemma leaves_group (joiner : Joiner) (negated : Bool) (members : List Condition) :
    (group joiner negated members).leaves = members.flatMap leaves := by
  rw [leaves, leavesOfList_eq_flatMap]

/-- What is gathered from the comparisons of a group is gathered from each member in order. -/
lemma flatMap_leaves_group {α : Type} (f : Comparison → List α) (joiner : Joiner) (negated : Bool)
    (members : List Condition) :
    (group joiner negated members).leaves.flatMap f =
      members.flatMap fun m => m.leaves.flatMap f := by
  rw [leaves_group, List.flatMap_assoc]

@[simp] lemma leaves_all (members : List Condition) :
    (all members).leaves = members.flatMap leaves :=
  leaves_group .and false members

section text

variable (escaping : Bool)

@[simp] lemma sql_leaf (c : Comparison) : (leaf c).sql escaping = c.sql escaping := by
  rw [sql]

lemma sql_group (joiner : Joiner) (negated : Bool) (members : List Condition) :
    (group joiner negated members).sql escaping =
      if negated then "(NOT " ++ body escaping joiner members ++ ")"
      else body escaping joiner members := by
  rw [sql]

lemma body_nil (joiner : Joiner) :
    body escaping joiner [] = if joiner = .or then "1 = 0" else "1 = 1" := by
  rw [body]

lemma body_singleton (joiner : Joiner) (only : Condition) :
    body escaping joiner [only] = only.statementSql escaping := by
  rw [body]
  cases only <;> simp [isGroup, statementSql]

lemma body_of_two_le (joiner : Joiner) {members : List Condition} (h : 2 ≤ members.length) :
    body escaping joiner members =
      "(" ++ (" " ++ joiner.token ++ " ").intercalate (members.map (sql escaping)) ++ ")" := by
  match members, h with
  | first :: second :: rest, _ => rw [body, sqls_eq_map]; rfl

lemma conjunction?_of_two_le {cs : List Condition} (h : 2 ≤ cs.length) :
    conjunction? escaping cs =
      some ("(" ++ " AND ".intercalate (cs.map (statementSql escaping)) ++ ")") := by
  match cs, h with
  | first :: second :: rest, _ => rfl

lemma conjunction?_eq_none_iff (cs : List Condition) : conjunction? escaping cs = none ↔ cs = [] := by
  match cs with
  | [] => simp [conjunction?]
  | [only] => simp [conjunction?]
  | first :: second :: rest => simp [conjunction?]

end text

end SqlCompose.Condition
