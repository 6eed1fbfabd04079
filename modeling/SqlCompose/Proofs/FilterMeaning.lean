import SqlCompose.Proofs.ConditionMeaning
import SqlCompose.Proofs.FilterParts

/-!
# The meaning of a filter

A filter object holds when all of its comparisons do. The conditions that a filter leaves have the
truths of its parts, in their order.
-/

namespace SqlCompose

section truths

variable (ρ : Comparison → Bool)

lemma Condition.eval_leaf (c : Comparison) : (leaf c).eval ρ = ρ c := by
  rw [eval]

lemma Condition.eval_all (members : List Condition) :
    (all members).eval ρ = members.all (eval ρ) := by
  rw [all, eval_group]
  simp

lemma Condition.eval_any (members : List Condition) :
    (any members).eval ρ = members.any (eval ρ) := by
  rw [any, eval_group]
  simp

lemma Condition.eval_negate (members : List Condition) :
    (negate members).eval ρ = !members.all (eval ρ) := by
  rw [negate, eval_group]
  simp

lemma Condition.all_eval_conjoin (cs : List Condition) :
    (conjoin cs).all (eval ρ) = cs.all (eval ρ) := by
  unfold conjoin
  rcases cs with _ | ⟨first, _ | ⟨second, rest⟩⟩
  · rfl
  · rfl
  · simp [eval_all]

lemma Lookup.eval_of_condition? {forced : Option Operator} {l : Lookup} {c : Condition}
    (h : l.condition? forced = some c) : c.eval ρ = (l.flatten forced none).all ρ := by
  obtain ⟨-, rfl⟩ := eq_all_of_condition? h
  have hleaf : Condition.eval ρ ∘ Condition.leaf = ρ := funext (Condition.eval_leaf ρ)
  rw [Condition.eval_all, List.all_map, hleaf]

namespace Filter

def partEval : Lookup ⊕ Condition → Bool
  | .inl l => (l.flatten none none).all ρ
  | .inr c => c.eval ρ

/-- The truths of the parts that leave a condition. -/
def truths (input : Filter) : List Bool :=
  (input.parts.filter yields).map (partEval ρ)

lemma map_eval_partConditions (p : Lookup ⊕ Condition) :
    (partConditions p).map (Condition.eval ρ) = if yields p then [partEval ρ p] else [] := by
  cases p with
  | inr c => rfl
  | inl l =>
    rw [partConditions, yields, partEval]
    rcases hcondition : l.condition? none with _ | c
    · have hnone := (l.condition?_eq_none_iff none).1 hcondition
      simp [hnone]
    · have hsome : l.hasOperand = true := by
        rw [← Bool.not_eq_false, ← l.condition?_eq_none_iff none, hcondition]
        simp
      simp [hsome, Lookup.eval_of_condition? ρ hcondition]

lemma map_eval_conditions (input : Filter) :
    input.conditions.map (Condition.eval ρ) = input.truths ρ := by
  rw [conditions_eq_flatMap_parts, truths]
  induction input.parts with
  | nil => rfl
  | cons p ps ih =>
    rw [List.flatMap_cons, List.map_append, ih, map_eval_partConditions, List.filter_cons]
    split <;> rfl

end Filter

end truths

end SqlCompose
