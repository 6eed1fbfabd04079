import Mathlib.Tactic.Lemma
import SqlCompose.Statement

/-!
# The parts of a statement's text

The text of a statement is its projection, its table and what follows the table. Each clause that
is there stands behind one blank, and a clause that is absent leaves no trace.
-/

namespace SqlCompose

/-- A clause with a blank in front of it, and nothing for an absent clause. -/
def spaced (clause : String) : String :=
  if clause = "" then "" else " " ++ clause

namespace Statement

/-- Everything that the text of a statement has after the name of the table. -/
def afterTable (s : Statement) : String :=
  (if s.isFinal then " FINAL" else "") ++ spaced s.whereClause ++
    spaced (s.grouping.getD {}).fieldsClause ++
    spaced ((s.grouping.getD {}).havingClause s.settings.escapeStrings) ++
    spaced (RowOrder.clause s.ordering) ++ spaced s.page.clause

lemma intercalate_blank_cons (first : String) (others : List String) :
    " ".intercalate (first :: others) = first ++ String.join (others.map (" " ++ ·)) := by
  induction others generalizing first with
  | nil => simp
  | cons second others ih =>
    rw [String.intercalate_cons_cons, ih]
    simp [String.append_assoc]

lemma join_filter_ne_empty (clauses : List String) :
    String.join ((clauses.filter (· ≠ "")).map (" " ++ ·)) = String.join (clauses.map spaced) := by
  induction clauses with
  | nil => rfl
  | cons clause clauses ih =>
    by_cases h : clause = ""
    · simp [h, spaced, ← ih]
    · simp [h, spaced, ← ih]

theorem sql_eq (s : Statement) :
    s.sql = "SELECT " ++ Projection.list s.projection ++ " FROM " ++ s.table.name ++
      s.afterTable := by
  have hfinal : String.join ((if s.isFinal then ["FINAL"] else []).map (" " ++ ·)) =
      if s.isFinal then " FINAL" else "" := by
    cases s.isFinal <;> rfl
  simp only [sql, clauses, afterTable, intercalate_blank_cons, List.map_append,
    String.join_append, hfinal, join_filter_ne_empty, List.map_cons, List.map_nil,
    String.join_cons, String.join_nil, String.append_empty, String.append_assoc]

end Statement

end SqlCompose
