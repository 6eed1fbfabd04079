import SqlCompose.Proofs.Runs
import SqlCompose.Proofs.StatementText

/-!
# The statement of a count

Counting sends the text of the statement with everything in front of the first ` FROM ` replaced.
This file shows when that first place is the statement's own: exactly when the projection does not
hold the word between blanks.
-/

namespace SqlCompose

/-- The same statement with the number of rows as its only item. -/
def Statement.counting (s : Statement) : Statement :=
  { s with projection := [.column "count() AS count"] }

/-- The word ` FROM ` stands in the projection, the blanks around the projection included. -/
def Statement.hidesFrom (s : Statement) : Bool :=
  Text.contains " FROM " (" " ++ Projection.list s.projection ++ " ")

namespace Text

lemma contains_iff (word s : String) :
    contains word s = true ↔ ∃ before rest, s.toList = before ++ (word.toList ++ rest) := by
  unfold contains
  constructor
  · intro h
    obtain ⟨halves, hcut⟩ := Option.isSome_iff_exists.1 h
    exact ⟨halves.1, halves.2, by rw [append_of_cut? hcut, List.append_assoc]⟩
  · rintro ⟨before, rest, h⟩
    obtain ⟨halves, hcut, -⟩ := cut?_append_le word.toList before rest
    rw [h, hcut]
    rfl

/-- A text is cut where it was put together, unless the word occurs earlier. -/
lemma cut?_append_iff (word before rest : List Char) :
    cut? word (before ++ (word ++ rest)) = some (before, rest) ↔
      ∀ a b, before ++ (word ++ rest) = a ++ (word ++ b) → before.length ≤ a.length := by
  obtain ⟨⟨a, b⟩, hcut, hle⟩ := cut?_append_le word before rest
  have happend : before ++ (word ++ rest) = a ++ (word ++ b) := by
    rw [append_of_cut? hcut, List.append_assoc]
  constructor
  · intro h a' b' h'
    obtain ⟨halves, hcut', hle'⟩ := cut?_append_le word a' b'
    rw [← h', h] at hcut'
    obtain rfl := Option.some.inj hcut'
    exact hle'
  · intro h
    have hlen : before.length = a.length := Nat.le_antisymm (h a b happend) hle
    obtain ⟨rfl, hrest⟩ := List.append_inj happend hlen
    rw [hcut, List.append_cancel_left hrest]

/-- An occurrence of ` FROM ` that begins before another one ends at most one blank into it. -/
lemma from_occurs_before {a b before rest : List Char}
    (h : before ++ (" FROM ".toList ++ rest) = a ++ (" FROM ".toList ++ b))
    (hlt : a.length < before.length) :
    ∃ r, before ++ [' '] = a ++ (" FROM ".toList ++ r) := by
  obtain ⟨c, hc, hrest⟩ | ⟨c, rfl, hrest⟩ := List.append_eq_append_iff.1 h
  · rw [hc, List.length_append] at hlt
    omega
  -- The two overlap, and only the blank in front can be the last character of ` FROM ` as well.
  rcases c with _ | ⟨c₀, _ | ⟨c₁, _ | ⟨c₂, _ | ⟨c₃, _ | ⟨c₄, c⟩⟩⟩⟩⟩
  · simp at hlt
  all_goals simp at hrest
  obtain ⟨rfl, rfl, rfl, rfl, rfl, hrest⟩ := hrest
  rcases c with _ | ⟨c₅, c⟩
  · exact ⟨[], by simp⟩
  · obtain ⟨rfl, -⟩ := List.cons.inj hrest
    exact ⟨c ++ [' '], by simp⟩

lemma append_of_from_in_selection {a r items : List Char}
    (h : "SELECT".toList ++ items = a ++ (" FROM ".toList ++ r)) :
    ∃ a', items = a' ++ (" FROM ".toList ++ r) := by
  obtain ⟨c, -, hitems⟩ | ⟨c, hselect, hr⟩ := List.append_eq_append_iff.1 h
  · exact ⟨c, hitems⟩
  · rcases c with _ | ⟨c₀, c⟩
    · exact ⟨[], by simpa using hr.symm⟩
    · obtain rfl : c₀ = ' ' := by simpa using (congrArg List.head? hr).symm
      have hblank : ' ' ∈ "SELECT".toList := by rw [hselect]; simp
      simp at hblank

end Text

open Text in
/-- The statement's own ` FROM ` is the first one exactly when the projection hides none. -/
lemma cut?_selection_iff (items rest : List Char) :
    cut? " FROM ".toList ("SELECT ".toList ++ items ++ (" FROM ".toList ++ rest)) =
        some ("SELECT ".toList ++ items, rest) ↔
      ¬ ∃ a b, ' ' :: items ++ [' '] = a ++ (" FROM ".toList ++ b) := by
  rw [cut?_append_iff]
  constructor
  -- A hidden occurrence starts before the statement's own, and an occurrence before the statement's
  -- own lies between the blanks around the projection.
  · rintro hfirst ⟨a, b, hhidden⟩
    have hearlier := hfirst ("SELECT".toList ++ a) (b ++ ("FROM ".toList ++ rest)) (by
      have h := congrArg ("SELECT".toList ++ · ++ ("FROM ".toList ++ rest)) hhidden
      simpa using h)
    have hlen := congrArg List.length hhidden
    simp at hearlier hlen
    omega
  · intro hnone a b h
    refine Nat.le_of_not_lt fun hlt => ?_
    obtain ⟨r, hr⟩ := from_occurs_before h hlt
    have hselect : "SELECT".toList ++ (' ' :: items ++ [' ']) = a ++ (" FROM ".toList ++ r) := by
      rw [← hr]
      simp
    obtain ⟨a', ha'⟩ := append_of_from_in_selection hselect
    exact hnone ⟨a', r, ha'⟩

namespace Statement

lemma hidesFrom_eq_false_iff (s : Statement) :
    s.hidesFrom = false ↔
      ¬ ∃ a b, ' ' :: (Projection.list s.projection).toList ++ [' '] =
        a ++ (" FROM ".toList ++ b) := by
  rw [← Bool.not_eq_true, hidesFrom, Text.contains_iff]
  simp [String.toList_append]

lemma counting_sql (s : Statement) :
    s.counting.sql = "SELECT count() AS count FROM " ++ (s.table.name ++ s.afterTable) := by
  rw [sql_eq]
  rfl

theorem countSql_sql_iff (s : Statement) :
    countSql s.sql = s.counting.sql ↔ s.hidesFrom = false := by
  have hsql : s.sql.toList = "SELECT ".toList ++ (Projection.list s.projection).toList ++
      (" FROM ".toList ++ (s.table.name ++ s.afterTable).toList) := by
    rw [sql_eq]
    simp [String.toList_append]
  obtain ⟨halves, hcut, -⟩ := Text.cut?_append_le " FROM ".toList
    ("SELECT ".toList ++ (Projection.list s.projection).toList)
    (s.table.name ++ s.afterTable).toList
  have happend := Text.append_of_cut? hcut
  rw [hidesFrom_eq_false_iff, ← cut?_selection_iff _ (s.table.name ++ s.afterTable).toList, hcut]
  have hcount : countSql s.sql = "SELECT count() AS count FROM " ++ String.ofList halves.2 := by
    simp only [countSql, hsql, hcut]
  rw [hcount, counting_sql]
  constructor
  · intro h
    have hrest : halves.2 = (s.table.name ++ s.afterTable).toList := by
      have hlists := congrArg String.toList h
      rw [String.toList_append, String.toList_append] at hlists
      simpa using List.append_cancel_left hlists
    rw [hrest, ← List.append_assoc] at happend
    have hfront := List.append_cancel_right (List.append_cancel_right happend)
    rw [hfront, ← hrest]
  · intro h
    rw [Option.some.inj h, String.ofList_toList]

end Statement

/-- Counting sends the statement with its items replaced and all else kept, exactly when the
projection holds no ` FROM ` between blanks. -/
theorem Query.sent_count_iff {q : Query} {link : Link} (hq : q.link = some link) (σ : Session) :
    q.statement.sql = "SELECT " ++ Projection.list q.statement.projection ++ " FROM " ++
        q.statement.table.name ++ q.statement.afterTable ∧
      q.statement.counting.sql =
        "SELECT count() AS count FROM " ++ (q.statement.table.name ++ q.statement.afterTable) ∧
      ((q.count.run.run σ).2.sent = σ.sent ++ [(link.number, q.statement.counting.sql)] ↔
        q.statement.hidesFrom = false) := by
  refine ⟨q.statement.sql_eq, q.statement.counting_sql, ?_⟩
  rw [← Statement.countSql_sql_iff, count_session hq]
  simp [Session.send, Session.logAll]

def Query.selecting (item : String) (conditions : List Condition) : Query where
  statement := { table := ⟨"sales", .mergeTree⟩, conditions, projection := [.column item] }
  link := some ⟨0, ({} : MemorySource).toSource⟩

/-- A ` FROM ` in an operand stands behind the table and does no harm. -/
theorem Query.sent_count_of_plain_item :
    (Query.selecting "id" [.leaf ⟨"note", .eq, .text "a FROM b"⟩]).statement.hidesFrom = false ∧
      ((Query.selecting "id" [.leaf ⟨"note", .eq, .text "a FROM b"⟩]).count.run.run {}).2.sent =
        [(0, "SELECT count() AS count FROM sales WHERE (note = 'a FROM b')")] := by
  have hplain :
      (Query.selecting "id" [.leaf ⟨"note", .eq, .text "a FROM b"⟩]).statement.hidesFrom = false := by
    decide
  refine ⟨hplain, ?_⟩
  rw [((Query.sent_count_iff rfl {}).2.2).2 hplain]
  decide

/-- A sub-query among the items takes the place of the table. -/
theorem Query.sent_count_of_subquery_item :
    ((Query.selecting "(SELECT max(id) FROM users) AS top" []).count.run.run {}).2.sent =
        [(0, "SELECT count() AS count FROM users) AS top FROM sales")] ∧
      (Query.selecting "(SELECT max(id) FROM users) AS top" []).statement.counting.sql =
        "SELECT count() AS count FROM sales" := by
  constructor <;> decide

end SqlCompose
