import SqlCompose.Proofs.FilterParts
import SqlCompose.Proofs.Runs

/-!
# Deletions without a comparison

A deletion is refused when its query has no conditions, and a condition may be a group without any
comparison in it. This file shows for which chains of calls the refusal is as strong as it should
be: when one of the filters compares something, or when every filter is a filter object.
-/

namespace SqlCompose

namespace Filter

/-- A part compares something: an operand of a filter object, or a leaf of a condition. -/
def compares : Lookup ⊕ Condition → Prop
  | .inl l => l.hasOperand = true
  | .inr c => c.leaves ≠ []

lemma leaves_partConditions (p : Lookup ⊕ Condition) :
    (partConditions p).flatMap Condition.leaves = [] ↔ ¬ compares p := by
  cases p with
  | inl l => simp [partConditions, compares, Lookup.leaves_condition?, Lookup.flatten_eq_nil_iff]
  | inr c => simp [partConditions, compares]

lemma yields_eq_false_iff (p : Lookup ⊕ Condition) :
    yields p = false ↔ p.isLeft = true ∧ ¬ compares p := by
  cases p with
  | inl l => simp [yields, compares]
  | inr c => simp [yields]

end Filter

namespace Call

lemma leaves_conditions_eq_nil_iff (c : Call) :
    c.conditions.flatMap Condition.leaves = [] ↔ ∀ p ∈ c.parts, ¬ Filter.compares p := by
  cases c with
  | filter input =>
    rw [conditions, parts, Condition.leaves_conjoin, Filter.conditions_eq_flatMap_parts,
      List.flatMap_assoc, List.flatMap_eq_nil_iff]
    simp only [Filter.leaves_partConditions]
  | exclude l =>
    simp [conditions, parts, Filter.compares, Lookup.leaves_condition?, Lookup.flatten_eq_nil_iff]
  | _ => simp [conditions, parts]

lemma conditions_eq_nil_iff (c : Call) :
    c.conditions = [] ↔ ∀ p ∈ c.parts, p.isLeft = true ∧ ¬ Filter.compares p := by
  rw [conditions_eq_nil_iff_contributes, contributes, List.any_eq_false]
  simp only [Bool.not_eq_true, Filter.yields_eq_false_iff]

end Call

namespace Statement

def comparisons (s : Statement) : List Comparison :=
  s.conditions.flatMap Condition.leaves

end Statement

namespace Query

/-- Deleting is guarded: without any comparison it is refused and leaves the session as it was, and
only with a comparison something is sent. -/
def guardsDelete (q : Query) : Prop :=
  ∀ σ : Session,
    (q.statement.comparisons = [] →
      q.delete.run.run σ = (.error (.unfilteredDelete q.statement.table.name), σ)) ∧
    ((q.delete.run.run σ).2.sent ≠ σ.sent → q.statement.comparisons ≠ [])

/-- A bound query guards its deletion when conditions without a comparison are no conditions. -/
lemma guardsDelete_iff {q : Query} {link : Link} (hq : q.link = some link) :
    q.guardsDelete ↔ (q.statement.comparisons = [] → q.statement.conditions = []) := by
  constructor
  · intro hguard hnone
    -- A bound query that has a deletion sends it, which the guard rules out.
    have hnil : q.statement.deletion? = none := by
      rcases hd : q.statement.deletion? with _ | sql
      · rfl
      · have hrefused := (hguard {}).1 hnone
        rw [delete_run_of_some hq hd] at hrefused
        have hsent := congrArg (fun r => r.2.sent) hrefused
        simp [Session.send, Session.logAll] at hsent
    exact (Condition.conjunction?_eq_none_iff _ _).1 (Option.map_eq_none_iff.1 hnil)
  · intro h σ
    refine ⟨fun hnone => delete_run_of_nil (h hnone) σ, fun hsent hnone => hsent ?_⟩
    rw [delete_run_of_nil (h hnone)]

/-- The deletion of a built query is guarded exactly when a filter of the chain compares something
or every filter of the chain is a filter object. -/
theorem guardsDelete_build_iff (table : Table) (settings : Settings) (start : Option Link)
    (cs : List Call) (σ : Session) {link : Link}
    (hlink : (build table settings start cs σ).link = some link) :
    (build table settings start cs σ).guardsDelete ↔
      (∃ p ∈ cs.flatMap Call.parts, Filter.compares p) ∨
        ∀ p ∈ cs.flatMap Call.parts, p.isLeft = true := by
  have hconditions : (build table settings start cs σ).statement.conditions =
      cs.flatMap Call.conditions := by
    rw [build_statement, Statement.foldl_call_conditions, List.nil_append]
  have hnone : (build table settings start cs σ).statement.comparisons = [] ↔
      ∀ p ∈ cs.flatMap Call.parts, ¬ Filter.compares p := by
    rw [Statement.comparisons, hconditions, List.flatMap_assoc, List.flatMap_eq_nil_iff,
      List.forall_mem_flatMap]
    simp only [Call.leaves_conditions_eq_nil_iff]
  have hnil : cs.flatMap Call.conditions = [] ↔
      ∀ p ∈ cs.flatMap Call.parts, p.isLeft = true ∧ ¬ Filter.compares p := by
    rw [List.flatMap_eq_nil_iff, List.forall_mem_flatMap]
    simp only [Call.conditions_eq_nil_iff]
  -- A filter object without operands leaves no condition behind, a condition is always kept.
  rw [guardsDelete_iff hlink, hnone, hconditions, hnil]
  constructor
  · intro h
    by_cases hcompares : ∃ p ∈ cs.flatMap Call.parts, Filter.compares p
    · exact .inl hcompares
    · refine .inr fun p hp => (h ?_ p hp).1
      exact fun p hp hcompare => hcompares ⟨p, hp, hcompare⟩
  · rintro (⟨p, hp, hcompare⟩ | hobjects) hnone
    · exact absurd hcompare (hnone p hp)
    · exact fun p hp => ⟨hobjects p hp, hnone p hp⟩

def filtered (input : Filter) : Query :=
  build ⟨"sales", .mergeTree⟩ {} (some ⟨0, ({} : MemorySource).toSource⟩) [.filter input] {}

/-- The filter object without entries leaves the deletion guarded. -/
theorem guardsDelete_filtered_empty :
    (filtered (.lookup .empty)).link.isSome = true ∧ (filtered (.lookup .empty)).guardsDelete := by
  refine ⟨rfl, (guardsDelete_build_iff _ _ _ _ _ rfl).2 (.inr ?_)⟩
  decide

/-- The conjunction without members holds no comparison, and every row is removed. -/
theorem delete_filtered_conjunction_of_nil :
    (filtered (.condition (.all []))).statement.comparisons = [] ∧
      ((filtered (.condition (.all []))).delete.run.run {}).1.isOk = true ∧
      ((filtered (.condition (.all []))).delete.run.run {}).2.sent =
        [(0, "ALTER TABLE sales DELETE WHERE 1 = 1")] := by
  refine ⟨rfl, rfl, ?_⟩
  decide

end Query

end SqlCompose
