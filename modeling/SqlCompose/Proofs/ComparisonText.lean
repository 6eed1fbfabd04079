import Mathlib.Tactic.Lemma
import SqlCompose.Condition.Clause

/-!
# The text of a comparison

A comparison is written in one of four forms: a test for null, a membership in a list, a common
member of two lists, or two operands around an operator.
-/

namespace SqlCompose

namespace Value

/-- Induction over an operand, with the claim for every item of a list. -/
theorem induct {motive : Value → Prop} (null : motive .null) (bool : ∀ b, motive (.bool b))
    (int : ∀ n, motive (.int n)) (uint : ∀ n, motive (.uint n)) (float : ∀ x, motive (.float x))
    (text : ∀ s, motive (.text s)) (date : ∀ d, motive (.date d))
    (moment : ∀ t, motive (.moment t)) (uuid : ∀ u, motive (.uuid u))
    (array : ∀ items, (∀ v ∈ items, motive v) → motive (.array items))
    (subquery : ∀ sql, motive (.subquery sql)) (v : Value) : motive v := by
  cases v with
  | null => exact null
  | bool b => exact bool b
  | int n => exact int n
  | uint n => exact uint n
  | float x => exact float x
  | text s => exact text s
  | date d => exact date d
  | moment t => exact moment t
  | uuid u => exact uuid u
  | array items =>
    exact array items fun v _ =>
      induct null bool int uint float text date moment uuid array subquery v
  | subquery sql => exact subquery sql
termination_by sizeOf v

mutual

/-- The operand and the items of its lists, at any depth. -/
def parts : Value → List Value
  | array items => array items :: partsOfList items
  | v => [v]

def partsOfList : List Value → List Value
  | [] => []
  | v :: rest => parts v ++ partsOfList rest

end

lemma parts_array (items : List Value) :
    (array items).parts = array items :: items.flatMap parts := by
  have hlist : partsOfList items = items.flatMap parts := by
    induction items with
    | nil => rfl
    | cons v rest ih => simp [partsOfList, ih]
  rw [parts, hlist]

lemma element_array (escaping : Bool) (items : List Value) :
    (array items).element escaping =
      "[" ++ ", ".intercalate (items.map (element escaping)) ++ "]" := by
  rw [element, elements_eq_map]

lemma joined_eq (escaping : Bool) (items : List Value) :
    joined escaping items = ", ".intercalate (items.map (element escaping)) := by
  rw [joined, elements_eq_map]

/-- What stands between the parentheses of a membership test. -/
def candidates (escaping : Bool) : Value → String
  | subquery sql => sql
  | array [] => "NULL"
  | array items => joined escaping items
  | v => v.element escaping

def arrayArgument (escaping : Bool) : Value → String
  | subquery sql => "(" ++ sql ++ ")"
  | v => v.arrayLiteral escaping

end Value

lemma Operator.isMembership_iff {op : Operator} :
    op.isMembership = true ↔ op = .isIn ∨ op = .hasAny := by
  rw [isMembership, Bool.or_eq_true, decide_eq_true_eq, decide_eq_true_eq]

lemma Operator.eq_isIn_or_eq_hasAny {op : Operator} (h : op.isMembership ≠ false) :
    op = .isIn ∨ op = .hasAny :=
  isMembership_iff.1 (Bool.ne_false_iff.1 h)

namespace Comparison

variable {escaping : Bool} {c : Comparison}

lemma sql_of_isNull (h : c.value.isNull = true) : c.sql escaping = c.path ++ " IS NULL" := by
  rw [sql, if_pos h]

lemma sql_of_isIn (h : c.value.isNull = false) (hop : c.operator = .isIn) :
    c.sql escaping = c.path ++ " IN (" ++ c.value.candidates escaping ++ ")" := by
  obtain ⟨path, op, v⟩ := c
  obtain rfl : op = .isIn := hop
  rw [sql, if_neg (by simp [h])]
  cases v with
  | array items =>
    cases items with
    | nil =>
      have hnull : " IN (NULL)" = " IN (" ++ "NULL" ++ ")" := by decide
      simp only [Value.candidates, hnull, String.append_assoc]
    | cons v rest => rfl
  | _ => rfl

lemma sql_of_hasAny (h : c.value.isNull = false) (hop : c.operator = .hasAny) :
    c.sql escaping = "hasAny(" ++ c.path ++ ", " ++ c.value.arrayArgument escaping ++ ")" := by
  obtain ⟨path, op, v⟩ := c
  obtain rfl : op = .hasAny := hop
  rw [sql, if_neg (by simp [h])]
  cases v with
  | subquery sql =>
    have hopen : ", (" = ", " ++ "(" := by decide
    have hclose : "))" = ")" ++ ")" := by decide
    simp only [Value.arrayArgument, hopen, hclose, String.append_assoc]
  | _ => rfl

lemma sql_of_not_isMembership (h : c.value.isNull = false)
    (hop : c.operator.isMembership = false) :
    c.sql escaping =
      c.path ++ " " ++ c.operator.token ++ " " ++ c.value.literal escaping := by
  obtain ⟨path, op, v⟩ := c
  rw [sql, if_neg (by simp [h])]
  cases op with
  | isIn => simp [Operator.isMembership] at hop
  | hasAny => simp [Operator.isMembership] at hop
  | _ => rfl

end Comparison

end SqlCompose
