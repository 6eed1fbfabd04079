import SqlCompose.Proofs.CallOrder
import SqlCompose.Proofs.FilterMeaning

/-!
# The order and grouping of filter calls

Two conjunctions meet in the clause of a statement: the filters of one call are members of a group,
and the calls stand side by side. Both read as a conjunction, so the clause is true exactly when
every call holds, in whatever order the calls are made and whatever lists stand around their filters.
-/

namespace SqlCompose

open Boolean

namespace Condition

lemma readable_conjoin {cs : List Condition} (h : ∀ c ∈ cs, c.Readable) :
    ∀ c ∈ conjoin cs, c.Readable := by
  unfold conjoin
  rcases cs with _ | ⟨first, _ | ⟨second, rest⟩⟩
  · exact h
  · exact h
  · intro c hc
    obtain rfl := List.mem_singleton.1 hc
    exact .group (by decide) h

/-- The clause is absent where it asks for nothing, and is read in one way otherwise. -/
def Asks (keyword clause : String) (value : (String → Bool) → Bool) : Prop :=
  (clause = "" ∧ ∀ ρ, value ρ = true) ∨ ∃ body, clause = keyword ++ " " ++ body ∧ ReadsAs body value

lemma asks_clause (keyword : String) {cs : List Condition} (h : ∀ c ∈ cs, c.Readable) :
    Asks keyword (clause keyword true cs) fun ρ => cs.all fun c => c.value ρ := by
  by_cases hcs : cs = []
  · subst hcs
    exact .inl ⟨rfl, fun ρ => rfl⟩
  · obtain ⟨body, hbody, hmeans⟩ :=
      means_conjunction hcs fun c hc => means_statementSql (means_sql (h c hc))
    refine .inr ⟨body, ?_, hmeans.readsAs⟩
    rw [clause, hbody]

lemma clause_eq_empty_iff {keyword : String} (hkey : keyword ≠ "") (escaping : Bool)
    (cs : List Condition) : clause keyword escaping cs = "" ↔ cs = [] := by
  rw [clause, ← conjunction?_eq_none_iff escaping]
  cases conjunction? escaping cs <;> simp [hkey]

end Condition

namespace Call

/-- The truth of what a filter call asks for, where `ρ` says which comparisons hold. -/
def holds (ρ : Comparison → Bool) : Call → Bool
  | .filter input => (input.truths ρ).all id
  | .exclude l => (l.flatten (some .ne) none).all ρ
  | _ => true

/-- The conditions that a filter call brings, without the group around them. -/
def nodes : Call → List Condition
  | .filter input => input.conditions
  | .exclude l => (l.condition? (some .ne)).toList
  | _ => []

lemma conditions_eq_conjoin_nodes (c : Call) : c.conditions = Condition.conjoin c.nodes := by
  cases c with
  | exclude l =>
    rw [conditions, nodes]
    cases l.condition? (some .ne) <;> rfl
  | _ => rfl

lemma nodes_eq_nil_iff (c : Call) : c.nodes = [] ↔ c.contributes = false := by
  rw [← conditions_eq_nil_iff_contributes, conditions_eq_conjoin_nodes,
    Condition.conjoin_eq_nil_iff]

lemma all_eval_nodes (ρ : Comparison → Bool) (c : Call) :
    c.nodes.all (Condition.eval ρ) = c.holds ρ := by
  cases c with
  | filter input =>
    rw [nodes, holds, ← Filter.map_eval_conditions, List.all_map]
    rfl
  | exclude l =>
    rw [nodes, holds]
    rcases hcondition : l.condition? (some .ne) with _ | c
    · rw [Lookup.condition?_eq_none_iff, ← Lookup.flatten_eq_nil_iff (some .ne) none] at hcondition
      rw [hcondition]
      rfl
    · simp [Lookup.eval_of_condition? ρ hcondition]
  | _ => rfl

lemma all_eval_flatMap_nodes (ρ : Comparison → Bool) (cs : List Call) :
    (cs.flatMap nodes).all (Condition.eval ρ) = cs.all (holds ρ) := by
  rw [List.all_flatMap]
  congr 1
  funext c
  exact all_eval_nodes ρ c

lemma all_eval_flatMap_conditions (ρ : Comparison → Bool) (cs : List Call) :
    (cs.flatMap conditions).all (Condition.eval ρ) = cs.all (holds ρ) := by
  rw [← all_eval_flatMap_nodes, List.all_flatMap, List.all_flatMap]
  congr 1
  funext c
  rw [conditions_eq_conjoin_nodes, Condition.all_eval_conjoin]

lemma settings?_of_isFilter {c : Call} (h : c.isFilter = true) : c.settings? = none := by
  cases c with
  | withSettings settings => contradiction
  | _ => rfl

end Call

/-- The filter calls of the second chain are those of the first one, in another order or with other
lists around the same filters. -/
inductive Regrouped : List Call → List Call → Prop where
  | permuted {cs ds : List Call} (h : cs.Perm ds) : Regrouped cs ds
  | split (before after : List Call) (inputs : List Filter) :
      Regrouped (before ++ .filter (.many inputs) :: after)
        (before ++ (inputs.map .filter ++ after))
  | nested (before after : List Call) {input input' : Filter} (h : input.parts = input'.parts) :
      Regrouped (before ++ .filter input :: after) (before ++ .filter input' :: after)
  | symm {cs ds : List Call} (h : Regrouped cs ds) : Regrouped ds cs
  | trans {cs ds es : List Call} (h : Regrouped cs ds) (h' : Regrouped ds es) : Regrouped cs es

namespace Regrouped

variable {cs ds : List Call}

lemma perm_nodes (h : Regrouped cs ds) : (cs.flatMap Call.nodes).Perm (ds.flatMap Call.nodes) := by
  -- Calls and lists differ, the conditions that they bring are the same up to their order.
  induction h with
  | permuted h => exact h.flatMap_right Call.nodes
  | split before after inputs =>
    have hmany : Call.nodes (.filter (.many inputs)) = (inputs.map .filter).flatMap Call.nodes := by
      rw [Call.nodes, Filter.conditions, Filter.conditionsOfList_eq_flatMap, List.flatMap_map]
      rfl
    simp [hmany]
  | nested before after h =>
    have hnodes := Filter.conditions_eq_flatMap_parts
    simp [Call.nodes, hnodes, h]
  | symm h ih => exact ih.symm
  | trans h h' ih ih' => exact ih.trans ih'

lemma forall_isFilter_iff (h : Regrouped cs ds) :
    (∀ c ∈ cs, c.isFilter = true) ↔ ∀ c ∈ ds, c.isFilter = true := by
  induction h with
  | permuted h => simp only [h.mem_iff]
  | split before after inputs =>
    have hmap : ∀ c ∈ inputs.map Call.filter, c.isFilter = true := by
      intro c hc
      obtain ⟨input, -, rfl⟩ := List.mem_map.1 hc
      rfl
    simp only [List.forall_mem_append, List.forall_mem_cons, Call.isFilter]
    tauto
  | nested before after h =>
    simp only [List.forall_mem_append, List.forall_mem_cons, Call.isFilter]
  | symm h ih => exact ih.symm
  | trans h h' ih ih' => exact ih.trans ih'

lemma forall_readable_iff (h : Regrouped cs ds) :
    (∀ n ∈ cs.flatMap Call.nodes, n.Readable) ↔ ∀ n ∈ ds.flatMap Call.nodes, n.Readable := by
  simp only [h.perm_nodes.mem_iff]

lemma forall_contributes_iff (h : Regrouped cs ds) :
    (∀ c ∈ cs, c.contributes = false) ↔ ∀ c ∈ ds, c.contributes = false := by
  have hnil : ∀ es : List Call, (∀ c ∈ es, c.contributes = false) ↔ es.flatMap Call.nodes = [] := by
    intro es
    simp only [List.flatMap_eq_nil_iff, Call.nodes_eq_nil_iff]
  have hperm := h.perm_nodes
  rw [hnil, hnil]
  constructor
  · intro hcs
    rw [hcs] at hperm
    exact List.nil_perm.1 hperm
  · intro hds
    rw [hds] at hperm
    exact List.perm_nil.1 hperm

lemma all_holds_eq (h : Regrouped cs ds) (ρ : Comparison → Bool) :
    cs.all (Call.holds ρ) = ds.all (Call.holds ρ) := by
  rw [← Call.all_eval_flatMap_nodes, ← Call.all_eval_flatMap_nodes]
  exact h.perm_nodes.all_eq

end Regrouped

namespace Query

def whereAfter (q : Query) (cs : List Call) (σ : Session) : String :=
  ((q.calls cs).run σ).1.statement.whereClause

section

variable {q : Query} {cs : List Call} (hq : q.statement.conditions = [])
  (hescape : q.statement.settings.escapeStrings = true) (hfilter : ∀ c ∈ cs, c.isFilter = true)

include hq hescape hfilter

lemma whereAfter_eq (σ : Session) :
    q.whereAfter cs σ = Condition.clause "WHERE" true (cs.flatMap Call.conditions) := by
  have hlast : Call.last? Call.settings? cs = none := by
    have hnil : cs.filterMap Call.settings? = [] := by
      rw [List.filterMap_eq_nil_iff]
      exact fun c hc => Call.settings?_of_isFilter (hfilter c hc)
    rw [Call.last?, hnil]
    rfl
  have hsettings : (cs.foldl Statement.call q.statement).settings = q.statement.settings := by
    rw [Statement.foldl_call_of_replacing Statement.settings
      fun s c => congrArg Statement.settings (s.call_eq c), hlast]
    rfl
  rw [whereAfter, calls_statement, Statement.whereClause, hsettings, hescape,
    Statement.foldl_call_conditions, hq, List.nil_append]

lemma whereAfter_eq_empty_iff (σ : Session) :
    q.whereAfter cs σ = "" ↔ ∀ c ∈ cs, c.contributes = false := by
  rw [whereAfter_eq hq hescape hfilter, Condition.clause_eq_empty_iff (by decide),
    List.flatMap_eq_nil_iff]
  simp only [Call.conditions_eq_nil_iff_contributes]

lemma asks_whereAfter (hread : ∀ n ∈ cs.flatMap Call.nodes, n.Readable) (σ : Session) :
    Condition.Asks "WHERE" (q.whereAfter cs σ) fun ρ =>
      cs.all (Call.holds fun leaf => ρ (leaf.sql true)) := by
  have hconditions : ∀ c ∈ cs.flatMap Call.conditions, c.Readable := by
    intro n hn
    obtain ⟨c, hc, hn⟩ := List.mem_flatMap.1 hn
    rw [Call.conditions_eq_conjoin_nodes] at hn
    exact Condition.readable_conjoin (fun m hm => hread m (List.mem_flatMap.2 ⟨c, hc, hm⟩)) n hn
  have hvalue : (fun ρ => cs.all (Call.holds fun leaf => ρ (leaf.sql true))) =
      fun ρ : String → Bool => (cs.flatMap Call.conditions).all fun c => c.value ρ := by
    funext ρ
    exact (Call.all_eval_flatMap_conditions _ cs).symm
  rw [whereAfter_eq hq hescape hfilter, hvalue]
  exact Condition.asks_clause "WHERE" hconditions

/-- The clause behind a chain of filter calls is true exactly when every call holds, and is absent
exactly when no call brings a condition. Neither changes when the calls are regrouped. -/
theorem whereAfter_of_regrouped (hread : ∀ n ∈ cs.flatMap Call.nodes, n.Readable) (σ : Session) :
    (Condition.Asks "WHERE" (q.whereAfter cs σ) fun ρ =>
        cs.all (Call.holds fun leaf => ρ (leaf.sql true))) ∧
      (q.whereAfter cs σ = "" ↔ ∀ c ∈ cs, c.contributes = false) ∧
      ∀ (ds : List Call) (τ : Session), Regrouped cs ds →
        (Condition.Asks "WHERE" (q.whereAfter ds τ) fun ρ =>
            cs.all (Call.holds fun leaf => ρ (leaf.sql true))) ∧
          (q.whereAfter ds τ = "" ↔ q.whereAfter cs σ = "") := by
  refine ⟨asks_whereAfter hq hescape hfilter hread σ,
    whereAfter_eq_empty_iff hq hescape hfilter σ, fun ds τ h => ?_⟩
  have hfilter' := h.forall_isFilter_iff.1 hfilter
  have hvalue : (fun ρ => cs.all (Call.holds fun leaf => ρ (leaf.sql true))) =
      fun ρ : String → Bool => ds.all (Call.holds fun leaf => ρ (leaf.sql true)) := by
    funext ρ
    exact h.all_holds_eq _
  constructor
  · rw [hvalue]
    exact asks_whereAfter hq hescape hfilter' (h.forall_readable_iff.1 hread) τ
  · rw [whereAfter_eq_empty_iff hq hescape hfilter', whereAfter_eq_empty_iff hq hescape hfilter,
      h.forall_contributes_iff]

end

/-- A list of filters with another list in it, and an exclusion. -/
def gathered : List Call :=
  [.filter (.many [.lookup (.value "a" (.int 1) .empty),
      .many [.condition (.any [.leaf ⟨"b", .gt, .int 2⟩, .leaf ⟨"c", .eq, .null⟩]), .many []]]),
    .exclude (.value "d__in" (.text "x' OR") .empty)]

def scattered : List Call :=
  [.exclude (.value "d__in" (.text "x' OR") .empty),
    .filter (.condition (.any [.leaf ⟨"b", .gt, .int 2⟩, .leaf ⟨"c", .eq, .null⟩])),
    .filter (.lookup (.value "a" (.int 1) .empty))]

lemma regrouped_gathered : Regrouped gathered scattered := by
  have hlist : Regrouped gathered (.filter (.many [.lookup (.value "a" (.int 1) .empty),
      .condition (.any [.leaf ⟨"b", .gt, .int 2⟩, .leaf ⟨"c", .eq, .null⟩])]) ::
        [.exclude (.value "d__in" (.text "x' OR") .empty)]) := .nested [] _ rfl
  exact (hlist.trans (.split [] _ _)).trans (.permuted (List.reverse_perm scattered))

lemma readable_gathered : ∀ n ∈ gathered.flatMap Call.nodes, n.Readable := by
  have hleaf : ∀ {path : String} {op : Operator} {v : Value}, IsPath path →
      keyword? (.word path.toList) = none → v.rawTexts = [] →
      (Condition.leaf ⟨path, op, v⟩).Readable := fun hpath hkey hraw => .leaf ⟨hpath, hkey, hraw⟩
  have hobject : (Condition.all [.leaf ⟨"a", .eq, .int 1⟩]).Readable := by
    refine .group (by decide) (List.forall_mem_singleton.2 ?_)
    exact hleaf ⟨'a', _, rfl, by decide, rfl⟩ rfl rfl
  have hgiven : (Condition.any [.leaf ⟨"b", .gt, .int 2⟩, .leaf ⟨"c", .eq, .null⟩]).Readable := by
    refine .group (by decide) (List.forall_mem_cons.2 ⟨?_, List.forall_mem_singleton.2 ?_⟩)
    · exact hleaf ⟨'b', _, rfl, by decide, rfl⟩ rfl rfl
    · exact hleaf ⟨'c', _, rfl, by decide, rfl⟩ rfl rfl
  have hexcluded : (Condition.all [.leaf ⟨"d", .ne, .text "x' OR"⟩]).Readable := by
    refine .group (by decide) (List.forall_mem_singleton.2 ?_)
    exact hleaf ⟨'d', _, rfl, by decide, rfl⟩ rfl rfl
  exact List.forall_mem_cons.2
    ⟨hobject, List.forall_mem_cons.2 ⟨hgiven, List.forall_mem_singleton.2 hexcluded⟩⟩

theorem whereAfter_scattered :
    (fresh ⟨"sales", .mergeTree⟩ {} none).whereAfter gathered {} =
        "WHERE (((a = 1) AND (b > 2 OR c IS NULL)) AND (d != 'x\\' OR'))" ∧
      (fresh ⟨"sales", .mergeTree⟩ {} none).whereAfter scattered {} =
        "WHERE ((d != 'x\\' OR') AND (b > 2 OR c IS NULL) AND (a = 1))" ∧
      Condition.Asks "WHERE" "WHERE ((d != 'x\\' OR') AND (b > 2 OR c IS NULL) AND (a = 1))"
        fun ρ => gathered.all (Call.holds fun leaf => ρ (leaf.sql true)) := by
  have hgathered : (fresh ⟨"sales", .mergeTree⟩ {} none).whereAfter gathered {} =
      "WHERE (((a = 1) AND (b > 2 OR c IS NULL)) AND (d != 'x\\' OR'))" := by decide
  have hscattered : (fresh ⟨"sales", .mergeTree⟩ {} none).whereAfter scattered {} =
      "WHERE ((d != 'x\\' OR') AND (b > 2 OR c IS NULL) AND (a = 1))" := by decide
  have hasks := ((whereAfter_of_regrouped (q := fresh ⟨"sales", .mergeTree⟩ {} none) rfl rfl
    (by decide) readable_gathered {}).2.2 scattered {} regrouped_gathered).1
  rw [hscattered] at hasks
  exact ⟨hgathered, hscattered, hasks⟩

end Query

end SqlCompose
