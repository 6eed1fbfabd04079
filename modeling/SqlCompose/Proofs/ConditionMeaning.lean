import SqlCompose.Proofs.ComparisonMeaning

/-!
# The meaning of a condition

The text of a condition tree, read back with the grammar, is true exactly when the tree is: members
of a conjunction all hold, some member of a disjunction holds, and a negated group does not hold.
The conditions of a statement are read as their conjunction.
-/

namespace SqlCompose.Condition

open Boolean

mutual

/-- The truth of a condition, where `ρ` says which comparisons hold. -/
def eval (ρ : Comparison → Bool) : Condition → Bool
  | leaf c => ρ c
  | group joiner negated members =>
    negated.xor (if joiner = .or then (evals ρ members).any id else (evals ρ members).all id)

def evals (ρ : Comparison → Bool) : List Condition → List Bool
  | [] => []
  | c :: rest => eval ρ c :: evals ρ rest

end

lemma evals_eq_map (ρ : Comparison → Bool) (cs : List Condition) :
    evals ρ cs = cs.map (eval ρ) := by
  induction cs with
  | nil => rfl
  | cons c rest ih => simp [evals, ih]

lemma eval_group (ρ : Comparison → Bool) (joiner : Joiner) (negated : Bool)
    (members : List Condition) :
    (group joiner negated members).eval ρ =
      negated.xor (if joiner = .or then members.any (eval ρ) else members.all (eval ρ)) := by
  rw [eval, evals_eq_map, List.any_map, List.all_map]
  rfl

/-- Conjunctions and disjunctions of readable comparisons, to any depth. -/
inductive Readable : Condition → Prop where
  | leaf {c : Comparison} (h : c.Readable) : Readable (.leaf c)
  | group {joiner : Joiner} {negated : Bool} {members : List Condition} (hjoiner : joiner ≠ .not)
      (h : ∀ m ∈ members, Readable m) : Readable (.group joiner negated members)

/-- The truth of a condition, where `ρ` says which comparison texts hold. -/
def value (c : Condition) (ρ : String → Bool) : Bool :=
  c.eval fun leaf => ρ (leaf.sql true)

def bodyValue (joiner : Joiner) (members : List Condition) (ρ : String → Bool) : Bool :=
  if joiner = .or then members.any fun m => m.value ρ else members.all fun m => m.value ρ

lemma value_leaf (c : Comparison) : (leaf c).value = fun ρ => ρ (c.sql true) := by
  funext ρ
  rw [value, eval]

lemma value_group (joiner : Joiner) (members : List Condition) :
    (group joiner false members).value = bodyValue joiner members := by
  funext ρ
  rw [value, eval_group, Bool.false_xor]
  rfl

lemma value_negated_group (joiner : Joiner) (members : List Condition) :
    (group joiner true members).value = fun ρ => !bodyValue joiner members ρ := by
  funext ρ
  rw [value, eval_group, Bool.true_xor]
  rfl

lemma means_statementSql {c : Condition} (h : Means .factor (c.sql true) c.value) :
    Means .factor (c.statementSql true) c.value := by
  rw [statementSql_eq]
  split
  · exact h
  · exact h.conjunction.disjunction.parens

lemma means_body {joiner : Joiner} (hjoiner : joiner ≠ .not) {members : List Condition}
    (h : ∀ m ∈ members, Means .factor (m.sql true) m.value) :
    Means .factor (body true joiner members) (bodyValue joiner members) := by
  rcases members with _ | ⟨first, _ | ⟨second, rest⟩⟩
  · rw [body_nil]
    cases joiner with
    | and => exact means_true
    | or => exact means_false
    | not => contradiction
  · rw [body_singleton]
    have hvalue : bodyValue joiner [first] = first.value := by
      funext ρ
      simp [bodyValue]
    rw [hvalue]
    exact means_statementSql (h first (by simp))
  · have hfirst := h first (by simp)
    have hrest : ∀ m ∈ second :: rest, Means .factor (m.sql true) m.value :=
      fun m hm => h m (List.mem_cons_of_mem first hm)
    rw [body_of_two_le true joiner (by simp)]
    cases joiner with
    | and => exact (hfirst.conjunction.all hrest).disjunction.parens
    | or => exact (hfirst.conjunction.disjunction.any hrest).parens
    | not => contradiction

theorem means_sql {c : Condition} (h : c.Readable) : Means .factor (c.sql true) c.value := by
  induction h with
  | leaf h =>
    rw [sql_leaf, value_leaf]
    exact Comparison.isAtom_sql h
  | @group joiner negated members hjoiner h ih =>
    have hbody := means_body hjoiner ih
    rw [sql_group]
    cases negated with
    | false =>
      rw [value_group]
      exact hbody
    | true =>
      -- The negation stands inside the parentheses, so it cannot reach beyond the group.
      have hsplit : "(NOT " = "(" ++ "NOT " := by decide
      have htext : "(NOT " ++ body true joiner members ++ ")" =
          "(" ++ ("NOT " ++ body true joiner members) ++ ")" := by
        simp only [hsplit, String.append_assoc]
      rw [value_negated_group, if_pos rfl, htext]
      exact hbody.not.conjunction.disjunction.parens

lemma means_conjunction {cs : List Condition} (hne : cs ≠ [])
    (h : ∀ c ∈ cs, Means .factor (c.statementSql true) c.value) :
    ∃ text, conjunction? true cs = some text ∧
      Means .factor text fun ρ => cs.all fun c => c.value ρ := by
  rcases cs with _ | ⟨first, _ | ⟨second, rest⟩⟩
  · contradiction
  · refine ⟨_, rfl, ?_⟩
    simpa using h first (by simp)
  · have hfirst := h first (by simp)
    have hrest : ∀ c ∈ second :: rest, Means .factor (c.statementSql true) c.value :=
      fun c hc => h c (List.mem_cons_of_mem first hc)
    refine ⟨_, conjunction?_of_two_le true (by simp), ?_⟩
    exact (hfirst.conjunction.all hrest).disjunction.parens

/-- Each condition of a list, and their conjunction, is read in one way, and is true under an
assignment to the comparison texts exactly when the tree is. -/
theorem readsAs_of_readable (cs : List Condition) (h : ∀ c ∈ cs, c.Readable) :
    (∀ c ∈ cs, ReadsAs (c.sql true) fun ρ => c.eval fun leaf => ρ (leaf.sql true)) ∧
      (cs ≠ [] → ∃ text, conjunction? true cs = some text ∧
        ReadsAs text fun ρ => cs.all fun c => c.eval fun leaf => ρ (leaf.sql true)) := by
  refine ⟨fun c hc => (means_sql (h c hc)).readsAs, fun hne => ?_⟩
  obtain ⟨text, htext, hmeans⟩ :=
    means_conjunction hne fun c hc => means_statementSql (means_sql (h c hc))
  exact ⟨text, htext, hmeans.readsAs⟩

/-- A disjunction with a keyword and a parenthesis in a string, and an empty conjunction. -/
def mixed : List Condition :=
  [.any [.leaf ⟨"name", .eq, .text "a' OR ("⟩, .negate [.leaf ⟨"t.and", .isIn, .array [.int 1]⟩]],
    .all []]

lemma readable_mixed : ∀ c ∈ mixed, c.Readable := by
  have hname : Comparison.Readable ⟨"name", .eq, .text "a' OR ("⟩ :=
    ⟨⟨'n', _, rfl, by decide, by decide⟩, rfl, rfl⟩
  have hnested : Comparison.Readable ⟨"t.and", .isIn, .array [.int 1]⟩ :=
    ⟨⟨'t', _, rfl, by decide, by decide⟩, rfl, rfl⟩
  have hnegated : (negate [.leaf ⟨"t.and", .isIn, .array [.int 1]⟩]).Readable := by
    refine .group (by decide) fun m hm => ?_
    obtain rfl := List.mem_singleton.1 hm
    exact .leaf hnested
  intro c hc
  simp only [mixed, List.mem_cons, List.not_mem_nil, or_false] at hc
  obtain rfl | rfl := hc
  · refine .group (by decide) fun m hm => ?_
    simp only [List.mem_cons, List.not_mem_nil, or_false] at hm
    obtain rfl | rfl := hm
    · exact .leaf hname
    · exact hnegated
  · exact .group (by decide) fun m hm => absurd hm List.not_mem_nil

theorem readsAs_mixed :
    conjunction? true mixed =
        some "((name = 'a\\' OR (' OR (NOT (t.and IN (1)))) AND 1 = 1)" ∧
      ReadsAs "((name = 'a\\' OR (' OR (NOT (t.and IN (1)))) AND 1 = 1)" fun ρ =>
        mixed.all fun c => c.eval fun leaf => ρ (leaf.sql true) := by
  have htext : conjunction? true mixed =
      some "((name = 'a\\' OR (' OR (NOT (t.and IN (1)))) AND 1 = 1)" := by
    decide
  obtain ⟨text, hconjunction, hreads⟩ :=
    (readsAs_of_readable mixed readable_mixed).2 (List.cons_ne_nil _ _)
  rw [htext] at hconjunction
  obtain rfl := Option.some.inj hconjunction
  exact ⟨htext, hreads⟩

end SqlCompose.Condition
