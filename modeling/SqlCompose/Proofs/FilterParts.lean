import SqlCompose.Proofs.Calls

/-!
# The parts of a filter

A filter holds filter objects and conditions in order, with lists around them that leave no trace.
A filter object leaves a condition when some entry of it is an operand, and a condition is kept
whatever it holds.
-/

namespace SqlCompose

/-- Some entry of the object, at any depth, is an operand. -/
def Lookup.hasOperand : Lookup → Bool
  | empty => false
  | value _ _ _ => true
  | nested _ inner rest => inner.hasOperand || rest.hasOperand

namespace Lookup

lemma flatten_eq_nil_iff (forced : Option Operator) (parent : Option String) (l : Lookup) :
    l.flatten forced parent = [] ↔ l.hasOperand = false := by
  induction l generalizing parent with
  | empty => simp [flatten, hasOperand]
  | value key v rest ih => simp [flatten, hasOperand]
  | nested key inner rest ihInner ihRest => simp [flatten, hasOperand, ihInner, ihRest]

lemma condition?_eq_none_iff (forced : Option Operator) (l : Lookup) :
    l.condition? forced = none ↔ l.hasOperand = false := by
  rw [← flatten_eq_nil_iff forced none, condition?]
  rcases l.flatten forced none with _ | ⟨first, rest⟩ <;> simp

lemma eq_all_of_condition? {forced : Option Operator} {l : Lookup} {c : Condition}
    (h : l.condition? forced = some c) :
    l.flatten forced none ≠ [] ∧ c = .all ((l.flatten forced none).map .leaf) := by
  rw [condition?] at h
  generalize l.flatten forced none = comparisons at h ⊢
  cases comparisons with
  | nil => contradiction
  | cons first rest => exact ⟨List.cons_ne_nil first rest, (Option.some.inj h).symm⟩

end Lookup

namespace Filter

mutual

/-- The filter objects and the conditions of a filter in order, without the lists around them. -/
def parts : Filter → List (Lookup ⊕ Condition)
  | lookup l => [.inl l]
  | condition c => [.inr c]
  | many inputs => partsOfList inputs

def partsOfList : List Filter → List (Lookup ⊕ Condition)
  | [] => []
  | input :: rest => parts input ++ partsOfList rest

end

def partConditions : Lookup ⊕ Condition → List Condition
  | .inl l => (l.condition? none).toList
  | .inr c => [c]

mutual

lemma conditions_eq_flatMap_parts (input : Filter) :
    input.conditions = input.parts.flatMap partConditions := by
  cases input with
  | lookup l => simp [conditions, parts, partConditions]
  | condition c => simp [conditions, parts, partConditions]
  | many inputs => rw [conditions, parts, conditionsOfList_eq_flatMap_parts]

lemma conditionsOfList_eq_flatMap_parts (inputs : List Filter) :
    conditionsOfList inputs = (partsOfList inputs).flatMap partConditions := by
  cases inputs with
  | nil => rfl
  | cons input rest =>
    rw [conditionsOfList, partsOfList, List.flatMap_append, conditions_eq_flatMap_parts,
      conditionsOfList_eq_flatMap_parts]

end

/-- A filter object with an operand, or any condition. -/
def yields : Lookup ⊕ Condition → Bool
  | .inl l => l.hasOperand
  | .inr _ => true

lemma partConditions_eq_nil_iff_yields (p : Lookup ⊕ Condition) :
    partConditions p = [] ↔ yields p = false := by
  cases p with
  | inl l => simp [partConditions, yields, Lookup.condition?_eq_none_iff]
  | inr c => simp [partConditions, yields]

lemma conditions_eq_nil_iff (input : Filter) :
    input.conditions = [] ↔ input.parts.any yields = false := by
  rw [conditions_eq_flatMap_parts, List.flatMap_eq_nil_iff, List.any_eq_false]
  simp only [partConditions_eq_nil_iff_yields, Bool.not_eq_true]

end Filter

lemma Condition.conjoin_eq_nil_iff (cs : List Condition) : conjoin cs = [] ↔ cs = [] := by
  unfold conjoin
  rcases cs with _ | ⟨first, _ | ⟨second, rest⟩⟩ <;> simp

namespace Call

/-- The parts of the filter that a call brings, if it brings one. -/
def parts : Call → List (Lookup ⊕ Condition)
  | .filter input => input.parts
  | .exclude l => [.inl l]
  | _ => []

def contributes (c : Call) : Bool :=
  c.parts.any Filter.yields

lemma conditions_eq_nil_iff_contributes (c : Call) : c.conditions = [] ↔ c.contributes = false := by
  cases c with
  | filter input =>
    rw [conditions, Condition.conjoin_eq_nil_iff, Filter.conditions_eq_nil_iff]
    rfl
  | exclude l =>
    simp [conditions, contributes, parts, Filter.yields, Lookup.condition?_eq_none_iff]
  | _ => simp [conditions, contributes, parts]

lemma flatMap_conditions_eq_nil_iff (cs : List Call) :
    cs.flatMap conditions = [] ↔ cs.any contributes = false := by
  rw [List.flatMap_eq_nil_iff, List.any_eq_false]
  simp only [conditions_eq_nil_iff_contributes, Bool.not_eq_true]

end Call

end SqlCompose
