import SqlCompose.Proofs.ComparisonText
import SqlCompose.Proofs.ConditionTree
import SqlCompose.Statement

/-!
# Operands of membership tests

A membership test may hold its operand as it was given or made a list. The text is the same, and an
operand that was made a list once stays as it is. So a condition tree has one text, whichever of its
membership tests are prepared, and so has every statement.
-/

namespace SqlCompose

namespace Value

/-- The operands that are no single item: null, lists and sub-queries. -/
def isListed : Value → Bool
  | null | array _ | subquery _ => true
  | _ => false

lemma asList_eq (v : Value) : v.asList = if v.isListed then v else array [v] := by
  cases v with
  | _ => rfl

lemma isListed_asList (v : Value) : v.asList.isListed = true := by
  rw [asList_eq]
  split
  · assumption
  · rfl

lemma asList_eq_self_iff (v : Value) : v.asList = v ↔ v.isListed = true := by
  constructor
  · intro h
    rw [← h]
    exact v.isListed_asList
  · intro h
    rw [asList_eq, if_pos h]

lemma asList_asList (v : Value) : v.asList.asList = v.asList :=
  (asList_eq_self_iff _).2 v.isListed_asList

lemma isNull_asList (v : Value) : v.asList.isNull = v.isNull := by
  cases v with
  | _ => rfl

variable (escaping : Bool)

lemma joined_singleton (v : Value) : joined escaping [v] = v.element escaping := by
  rw [joined_eq, List.map_singleton, String.intercalate_singleton]

/-- A single item is written between the parentheses as the only item of a list. -/
lemma candidates_asList (v : Value) : v.asList.candidates escaping = v.candidates escaping := by
  by_cases h : v.isListed = true
  · rw [(asList_eq_self_iff v).2 h]
  · have hitem : v.candidates escaping = v.element escaping := by
      cases v with
      | null | array _ | subquery _ => exact absurd rfl h
      | _ => rfl
    rw [asList_eq, if_neg h, hitem]
    exact joined_singleton escaping v

/-- A single item is written as the array that has no other. -/
lemma arrayArgument_asList (v : Value) :
    v.asList.arrayArgument escaping = v.arrayArgument escaping := by
  by_cases h : v.isListed = true
  · rw [(asList_eq_self_iff v).2 h]
  · have hitem : v.arrayArgument escaping = "[" ++ v.element escaping ++ "]" := by
      cases v with
      | null | array _ | subquery _ => exact absurd rfl h
      | _ => rfl
    rw [asList_eq, if_neg h, hitem, ← joined_singleton]
    rfl

end Value

namespace Comparison

lemma sql_asList (escaping : Bool) (path : String) {op : Operator} (hop : op.isMembership = true)
    (v : Value) : (mk path op v.asList).sql escaping = (mk path op v).sql escaping := by
  by_cases hnull : v.isNull = true
  · have hlist : (mk path op v.asList).value.isNull = true := v.isNull_asList.trans hnull
    rw [sql_of_isNull hlist, sql_of_isNull hnull]
  · rw [Bool.not_eq_true] at hnull
    have hlist : (mk path op v.asList).value.isNull = false := v.isNull_asList.trans hnull
    obtain rfl | rfl := Operator.isMembership_iff.1 hop
    · rw [sql_of_isIn hlist rfl, sql_of_isIn hnull rfl, Value.candidates_asList]
    · rw [sql_of_hasAny hlist rfl, sql_of_hasAny hnull rfl, Value.arrayArgument_asList]

lemma prepared_of_isMembership (path : String) {op : Operator} (hop : op.isMembership = true)
    (v : Value) : prepared path op v = ⟨path, op, v.asList⟩ := by
  have hlike : op ≠ .like := by
    rintro rfl
    contradiction
  rw [prepared, if_neg hlike, if_pos hop]

/-- A membership test has one text, whether it is prepared or holds its operand as it was given. The
prepared operand is null, a list or a sub-query, and a membership test that is prepared with it once
more is the one that is prepared with the operand itself. -/
theorem membership_forms_agree (escaping : Bool) (path : String) {op : Operator}
    (hop : op = .isIn ∨ op = .hasAny) (v : Value) :
    (prepared path op v).sql escaping = (mk path op v).sql escaping ∧
      (prepared path op v).value.isListed = true ∧
      ∀ (elsewhere : String) (before : Operator), before = .isIn ∨ before = .hasAny →
        let processed := (prepared elsewhere before v).value
        (prepared path op processed).value = processed ∧
          prepared path op processed = prepared path op v := by
  have hmembership := Operator.isMembership_iff.2 hop
  rw [prepared_of_isMembership path hmembership]
  refine ⟨sql_asList escaping path hmembership v, v.isListed_asList, ?_⟩
  intro elsewhere before hbefore processed
  have hprocessed : processed = v.asList := by
    simp only [processed, prepared_of_isMembership elsewhere (Operator.isMembership_iff.2 hbefore)]
  have hagain : prepared path op processed = ⟨path, op, v.asList⟩ := by
    rw [prepared_of_isMembership path hmembership, hprocessed, Value.asList_asList]
  exact ⟨by rw [hagain, hprocessed], hagain⟩

/-- A text is looked for among tags, after it was prepared for a test of another column. -/
theorem membership_forms_agree_single_text :
    let v : Value := .text "it's"
    let processed := (prepared "name" .isIn v).value
    processed = .array [.text "it's"] ∧
      (mk "tags" .hasAny v).sql true = "hasAny(tags, ['it\\'s'])" ∧
      (prepared "tags" .hasAny v).sql true = "hasAny(tags, ['it\\'s'])" ∧
      prepared "tags" .hasAny processed = ⟨"tags", .hasAny, processed⟩ := by
  intro v processed
  have htext : (mk "tags" .hasAny v).sql true = "hasAny(tags, ['it\\'s'])" := by decide
  obtain ⟨hsql, -, hagain⟩ := membership_forms_agree true "tags" (.inr rfl) v
  obtain ⟨-, hleaf⟩ := hagain "name" .isIn (.inl rfl)
  exact ⟨rfl, htext, hsql.trans htext, hleaf⟩

end Comparison

namespace Condition

mutual

/-- The tree with other comparisons in the places of its own. -/
def map (f : Comparison → Comparison) : Condition → Condition
  | leaf c => leaf (f c)
  | group joiner negated members => group joiner negated (mapList f members)

def mapList (f : Comparison → Comparison) : List Condition → List Condition
  | [] => []
  | c :: rest => map f c :: mapList f rest

end

variable {f : Comparison → Comparison}

lemma mapList_eq_map (cs : List Condition) : mapList f cs = cs.map (map f) := by
  induction cs with
  | nil => rfl
  | cons c rest ih => rw [mapList, ih, List.map_cons]

lemma map_leaf (c : Comparison) : (leaf c).map f = leaf (f c) := by
  rw [map]

lemma map_group (joiner : Joiner) (negated : Bool) (members : List Condition) :
    (group joiner negated members).map f = group joiner negated (members.map (map f)) := by
  rw [map, mapList_eq_map]

variable {escaping : Bool}

lemma statementSql_map {c : Condition} (h : (c.map f).sql escaping = c.sql escaping) :
    (c.map f).statementSql escaping = c.statementSql escaping := by
  cases c with
  | leaf c =>
    rw [map_leaf, sql_leaf, sql_leaf] at h
    rw [map_leaf, statementSql, statementSql, h]
  | group joiner negated members =>
    rw [map_group] at h ⊢
    exact h

lemma body_map (joiner : Joiner) {members : List Condition}
    (h : ∀ m ∈ members, (m.map f).sql escaping = m.sql escaping) :
    body escaping joiner (members.map (map f)) = body escaping joiner members := by
  rcases members with _ | ⟨first, _ | ⟨second, rest⟩⟩
  · rfl
  · rw [List.map_singleton, body_singleton, body_singleton]
    exact statementSql_map (h first (by simp))
  · rw [body_of_two_le escaping joiner (by simp), body_of_two_le escaping joiner (by simp),
      List.map_map]
    have hsql : (first :: second :: rest).map (sql escaping ∘ map f) =
        (first :: second :: rest).map (sql escaping) := List.map_congr_left h
    rw [hsql]

/-- A tree keeps its text when each comparison keeps its own. -/
theorem sql_map (h : ∀ c, (f c).sql escaping = c.sql escaping) (c : Condition) :
    (c.map f).sql escaping = c.sql escaping := by
  induction c using induct with
  | leaf c => rw [map_leaf, sql_leaf, sql_leaf, h]
  | group joiner negated members ih => rw [map_group, sql_group, sql_group, body_map joiner ih]

lemma conjunction?_map (h : ∀ c, (f c).sql escaping = c.sql escaping) (cs : List Condition) :
    conjunction? escaping (cs.map (map f)) = conjunction? escaping cs := by
  have hmember : ∀ c ∈ cs, (c.map f).statementSql escaping = c.statementSql escaping := fun c _ =>
    statementSql_map (sql_map h c)
  rcases cs with _ | ⟨first, _ | ⟨second, rest⟩⟩
  · rfl
  · exact congrArg some (hmember first (by simp))
  · rw [conjunction?_of_two_le escaping (by simp), conjunction?_of_two_le escaping (by simp),
      List.map_map]
    have hsql : (first :: second :: rest).map (statementSql escaping ∘ map f) =
        (first :: second :: rest).map (statementSql escaping) := List.map_congr_left hmember
    rw [hsql]

lemma clause_map (h : ∀ c, (f c).sql escaping = c.sql escaping) (keyword : String)
    (cs : List Condition) : clause keyword escaping (cs.map (map f)) = clause keyword escaping cs := by
  rw [clause, clause, conjunction?_map h]

end Condition

/-- The comparison, prepared if it is a membership test. -/
def Comparison.listed (c : Comparison) : Comparison :=
  if c.operator.isMembership then prepared c.path c.operator c.value else c

def Condition.listed (c : Condition) : Condition :=
  c.map Comparison.listed

def Grouping.listed (g : Grouping) : Grouping :=
  { g with having := g.having.map Condition.listed }

/-- The statement with every membership test prepared, also in the conditions on groups. -/
def Statement.listed (s : Statement) : Statement :=
  { s with
    conditions := s.conditions.map Condition.listed
    grouping := s.grouping.map Grouping.listed }

lemma Comparison.sql_listed (escaping : Bool) (c : Comparison) :
    c.listed.sql escaping = c.sql escaping := by
  by_cases hop : c.operator.isMembership = true
  · rw [listed, if_pos hop, prepared_of_isMembership c.path hop]
    exact sql_asList escaping c.path hop c.value
  · rw [listed, if_neg hop]

lemma Condition.clause_listed (keyword : String) (escaping : Bool) (cs : List Condition) :
    clause keyword escaping (cs.map listed) = clause keyword escaping cs :=
  clause_map (Comparison.sql_listed escaping) keyword cs

namespace Statement

/-- A statement and its deletion are written as with every membership test prepared. -/
theorem sql_listed (s : Statement) : s.listed.sql = s.sql ∧ s.listed.deletion? = s.deletion? := by
  have hgrouping : s.listed.grouping.getD {} = (s.grouping.getD {}).listed := by
    simp only [listed]
    cases s.grouping <;> rfl
  have hwhere : s.listed.whereClause = s.whereClause := Condition.clause_listed ..
  have hhaving : (s.grouping.getD {}).listed.havingClause s.listed.settings.escapeStrings =
      (s.grouping.getD {}).havingClause s.settings.escapeStrings := Condition.clause_listed ..
  have hclauses : s.listed.clauses = s.clauses := by
    simp only [clauses, hwhere, hgrouping, hhaving]
    rfl
  have hconjunction : Condition.conjunction? s.listed.settings.escapeStrings s.listed.conditions =
      Condition.conjunction? s.settings.escapeStrings s.conditions :=
    Condition.conjunction?_map (Comparison.sql_listed _) s.conditions
  constructor
  · rw [sql, sql, hclauses]
    rfl
  · rw [deletion?, deletion?, hconjunction]
    rfl

end Statement

end SqlCompose
