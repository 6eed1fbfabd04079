import SqlCompose.Proofs.Calls
import SqlCompose.Proofs.Respelling

/-!
# What escaping costs a statement

A statement that is written once with and once without escapes is the same text exactly when no
string in its conditions holds a quote or a backslash. Otherwise each of these characters makes the
escaped text longer by one.
-/

namespace SqlCompose

open Text

namespace Statement

/-- The statement with escapes switched on or off. -/
def escaping (s : Statement) (on : Bool) : Statement :=
  s.withSettings { s.settings with escapeStrings := on }

/-- The strings in the conditions of a statement and in those on its groups. -/
def texts (s : Statement) : List String :=
  (s.conditions ++ s.groupConditions).flatMap Condition.texts

lemma sql_escaping (s : Statement) (on : Bool) :
    (s.escaping on).sql = "SELECT " ++ Projection.list s.projection ++ " FROM " ++ s.table.name ++
      ((if s.isFinal then " FINAL" else "") ++
        spaced (Condition.clause "WHERE" on s.conditions) ++
        spaced (s.grouping.getD {}).fieldsClause ++
        spaced (Condition.clause "HAVING" on s.groupConditions) ++
        spaced (RowOrder.clause s.ordering) ++ spaced s.page.clause) :=
  sql_eq (s.escaping on)

theorem respelled_sql (s : Statement) :
    Respelled s.texts (s.escaping true).sql (s.escaping false).sql := by
  have hwhere := (Condition.respelled_clause "WHERE" s.conditions).spaced
  have hhaving := (Condition.respelled_clause "HAVING" s.groupConditions).spaced
  have hclauses := (((hwhere.append (.same (spaced (s.grouping.getD {}).fieldsClause))).append
    hhaving).append (.same (spaced (RowOrder.clause s.ordering)))).append
      (.same (spaced s.page.clause))
  rw [sql_escaping, sql_escaping]
  simpa [texts, String.append_assoc] using hclauses.front
    ("SELECT " ++ Projection.list s.projection ++ " FROM " ++ s.table.name ++
      if s.isFinal then " FINAL" else "")

/-- With and without escapes a statement is the same text exactly when no string in its conditions
holds a quote or a backslash, and escaped it is longer by the number of these characters. -/
theorem escaped_sql_eq_iff (s : Statement) :
    ((s.escaping true).sql = (s.escaping false).sql ↔
        ∀ t ∈ s.texts, '\'' ∉ t.toList ∧ '\\' ∉ t.toList) ∧
      (s.escaping true).sql.length = (s.escaping false).sql.length + specials s.texts ∧
      (s.escaping true).sql.utf8ByteSize =
        (s.escaping false).sql.utf8ByteSize + specials s.texts := by
  have hspelled := s.respelled_sql
  refine ⟨?_, hspelled.length_eq, hspelled.utf8ByteSize_eq⟩
  rw [hspelled.eq_iff, specials_eq_zero_iff]

end Statement

end SqlCompose
