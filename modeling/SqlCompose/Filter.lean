import SqlCompose.Lookup

/-!
# Filters

What a filter call accepts: filter objects, condition trees and lists of filters.
-/

namespace SqlCompose

/-- A filter object, a condition, or a list of filters to any depth. -/
inductive Filter where
  | lookup (l : Lookup)
  | condition (c : Condition)
  | many (inputs : List Filter)

namespace Filter

mutual

/-- The conditions of a filter in order; what is empty leaves nothing. -/
def conditions : Filter → List Condition
  | lookup l => (l.condition? none).toList
  | condition c => [c]
  | many inputs => conditionsOfList inputs

def conditionsOfList : List Filter → List Condition
  | [] => []
  | input :: rest => conditions input ++ conditionsOfList rest

end

theorem conditionsOfList_eq_flatMap (inputs : List Filter) :
    conditionsOfList inputs = inputs.flatMap conditions := by
  induction inputs with
  | nil => rfl
  | cons input rest ih => simp [conditionsOfList, ih]

end Filter

end SqlCompose
