import SqlCompose.Criteria
import SqlCompose.Proofs.FilterMeaning

/-!
# The meaning of criteria

A chain of calls means the left fold of its calls: the first call that brings a condition gives its
own truth, and each later one is joined onto what was built before.
-/

namespace SqlCompose.Criteria

def apply (q : Criteria) (call : Joiner × Filter) : Criteria :=
  match call with
  | (.and, input) => q.and input
  | (.or, input) => q.or input
  | (.not, input) => q.not input

lemma apply_eq (q : Criteria) (joiner : Joiner) (input : Filter) :
    q.apply (joiner, input) = q.combine joiner input := by
  cases joiner <;> rfl

/-- The truth after one more call, where `v` is the truth before it and `truths` are those of the
conditions that the call brings. -/
def nextTruth (v : Option Bool) : Joiner → List Bool → Option Bool
  | _, [] => v
  | .and, truths => some (v.elim (truths.all id) (· && truths.all id))
  | .or, truths => some (v.elim (truths.any id) (· || truths.any id))
  | .not, truths => some (v.elim (!truths.all id) (· && !truths.all id))

lemma call?_eq_none_iff (joiner : Joiner) (cs : List Condition) :
    call? joiner cs = none ↔ cs = [] := by
  match cs with
  | [] => simp [call?]
  | [only] => simp [call?]
  | first :: second :: rest => simp [call?]

section truth

variable (ρ : Comparison → Bool)

lemma map_eval_call? (joiner : Joiner) (cs : List Condition) :
    (call? joiner cs).map (Condition.eval ρ) = nextTruth none joiner (cs.map (Condition.eval ρ)) := by
  match cs with
  | [] => cases joiner <;> rfl
  | [only] => cases joiner <;> simp [call?, nextTruth, Condition.eval_negate]
  | first :: second :: rest =>
    have hall : ((first :: second :: rest).map (Condition.eval ρ)).all id =
        (first :: second :: rest).all (Condition.eval ρ) := List.all_map
    have hany : ((first :: second :: rest).map (Condition.eval ρ)).any id =
        (first :: second :: rest).any (Condition.eval ρ) := List.any_map
    cases joiner with
    | and => exact congrArg some ((Condition.eval_all ρ _).trans hall.symm)
    | or => exact congrArg some ((Condition.eval_any ρ _).trans hany.symm)
    | not =>
      exact congrArg some ((Condition.eval_negate ρ _).trans (congrArg Bool.not hall.symm))

lemma nextTruth_some (v : Bool) (joiner : Joiner) (truths : List Bool) :
    nextTruth (some v) joiner truths =
      (nextTruth none joiner truths).elim (some v) fun w =>
        some (if joiner = .or then v || w else v && w) := by
  cases truths with
  | nil => cases joiner <;> rfl
  | cons t truths => cases joiner <;> rfl

lemma eval_joined_chainJoiner (joiner : Joiner) (before call : Condition) :
    (Condition.joined (chainJoiner joiner) [before, call]).eval ρ =
      if joiner = .or then before.eval ρ || call.eval ρ else before.eval ρ && call.eval ρ := by
  cases joiner <;> simp [chainJoiner, Condition.joined, Condition.eval_all, Condition.eval_any]

/-- One call takes the truth of the criteria to the next one. -/
lemma map_eval_apply (q : Criteria) (call : Joiner × Filter) :
    (q.apply call).root.map (Condition.eval ρ) =
      nextTruth (q.root.map (Condition.eval ρ)) call.1 (call.2.truths ρ) := by
  obtain ⟨joiner, input⟩ := call
  have hcall := map_eval_call? ρ joiner input.conditions
  rw [Filter.map_eval_conditions] at hcall
  rw [apply_eq, combine]
  -- A later call joins on what it would give as the first one.
  rcases q with ⟨_ | before⟩
  · cases hsome : call? joiner input.conditions <;> rw [hsome] at hcall <;> exact hcall
  · rw [Option.map_some, nextTruth_some, ← hcall]
    cases call? joiner input.conditions with
    | none => rfl
    | some call => simp [eval_joined_chainJoiner]

theorem map_eval_foldl_apply (q : Criteria) (calls : List (Joiner × Filter)) :
    (calls.foldl apply q).root.map (Condition.eval ρ) =
      calls.foldl (fun v call => nextTruth v call.1 (call.2.truths ρ))
        (q.root.map (Condition.eval ρ)) := by
  induction calls generalizing q with
  | nil => rfl
  | cons call calls ih => rw [List.foldl_cons, List.foldl_cons, ih, map_eval_apply]

end truth

lemma apply_of_yields_nothing (q : Criteria) {call : Joiner × Filter}
    (h : call.2.parts.any Filter.yields = false) : q.apply call = q := by
  obtain ⟨joiner, input⟩ := call
  rw [apply_eq, combine, (call?_eq_none_iff joiner _).2 ((Filter.conditions_eq_nil_iff input).2 h)]

lemma root_apply_eq_none_iff (q : Criteria) (call : Joiner × Filter) :
    (q.apply call).root = none ↔ q.root = none ∧ call.2.parts.any Filter.yields = false := by
  obtain ⟨joiner, input⟩ := call
  rw [apply_eq, combine, ← Filter.conditions_eq_nil_iff, ← call?_eq_none_iff joiner]
  cases call? joiner input.conditions with
  | none => simp
  | some call => cases hroot : q.root <;> simp

theorem root_foldl_apply_eq_none_iff (q : Criteria) (calls : List (Joiner × Filter)) :
    (calls.foldl apply q).root = none ↔
      q.root = none ∧ ∀ call ∈ calls, call.2.parts.any Filter.yields = false := by
  induction calls generalizing q with
  | nil => simp
  | cons call calls ih =>
    rw [List.foldl_cons, ih, root_apply_eq_none_iff, List.forall_mem_cons, and_assoc]

/-- A chain of calls from empty criteria has the truth of the left fold of its calls. Calls that
bring no condition change nothing, and the criteria stay empty when no call brings one. -/
theorem eval_chain (calls : List (Joiner × Filter)) :
    (∀ (q : Criteria) (call : Joiner × Filter), call.2.parts.any Filter.yields = false →
        q.apply call = q) ∧
      (∀ ρ : Comparison → Bool, (calls.foldl apply {}).root.map (Condition.eval ρ) =
        calls.foldl (fun v call => nextTruth v call.1 (call.2.truths ρ)) none) ∧
      ((calls.foldl apply {}).root = none ↔
        ∀ call ∈ calls, call.2.parts.any Filter.yields = false) := by
  refine ⟨fun q call h => q.apply_of_yields_nothing h, fun ρ => map_eval_foldl_apply ρ {} calls, ?_⟩
  rw [root_foldl_apply_eq_none_iff]
  simp

/-- A negation, a call without conditions, a disjunction of two, and a conjunction. -/
def refined : List (Joiner × Filter) :=
  [(.not, .lookup (.value "a" (.int 1) .empty)), (.and, .many [.lookup .empty, .many []]),
    (.or, .many [.condition (.leaf ⟨"b", .eq, .int 2⟩), .lookup (.value "c" (.int 3) .empty)]),
    (.and, .lookup (.value "d" (.int 4) .empty))]

theorem eval_chain_refined :
    (Filter.many [.lookup .empty, .many []]).parts.any Filter.yields = false ∧
      (ofCondition (.any [])).apply (.not, .many [.lookup .empty, .many []]) =
        ofCondition (.any []) ∧
      (refined.foldl apply {}).root.map (Condition.eval fun c => c.path ≠ "c") = some true ∧
      (refined.foldl apply {}).root.isSome = true := by
  have hnothing : (Filter.many [.lookup .empty, .many []]).parts.any Filter.yields = false := rfl
  obtain ⟨hsame, htruth, hroot⟩ := eval_chain refined
  have hvalue := htruth fun c => c.path ≠ "c"
  refine ⟨hnothing, hsame _ _ hnothing, hvalue.trans (by decide), ?_⟩
  rw [Option.isSome_iff_ne_none, ne_eq, hroot]
  decide

end SqlCompose.Criteria
