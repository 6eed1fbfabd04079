import SqlCompose.Proofs.ConditionShape

/-!
# Strings and the structure of a statement

A statement is cut at its literals where the hollow statement is cut. So two chains of calls that
differ only in the contents of strings give statements with the same text outside of literals and
with one literal for each string.
-/

namespace SqlCompose

open Text

namespace Aggregate

def rawTexts : Aggregate → List String
  | onColumn function column label => function :: column :: label.toList
  | onAggregate function argument label => function :: (argument.rawTexts ++ label.toList)
  | arithmetic left _ right label => left.rawTexts ++ right.rawTexts ++ label.toList

lemma quote_not_mem_expression {a : Aggregate} (h : QuoteFree a.rawTexts) :
    '\'' ∉ a.expression.toList := by
  induction a with
  | onColumn function column label =>
    have hfunction := h function (by simp [rawTexts])
    have hcolumn := h column (by simp [rawTexts])
    simp [expression, String.toList_append, hfunction, hcolumn]
  | onAggregate function argument label ih =>
    have hfunction := h function (by simp [rawTexts])
    have hargument := ih fun t ht => h t (by simp [rawTexts, ht])
    simp [expression, String.toList_append, hfunction, hargument]
  | arithmetic left op right label ihLeft ihRight =>
    have hleft := ihLeft fun t ht => h t (by simp [rawTexts, ht])
    have hright := ihRight fun t ht => h t (by simp [rawTexts, ht])
    cases op <;> simp [expression, String.toList_append, Arithmetic.token, hleft, hright]

lemma mem_rawTexts_of_label {a : Aggregate} {label : String} (h : a.label = some label) :
    label ∈ a.rawTexts := by
  cases a <;> simp_all [Aggregate.label, rawTexts]

end Aggregate

namespace Projection

def rawTexts : Projection → List String
  | all => []
  | column name => [name]
  | aggregate expression label => label.toList ++ expression.rawTexts

lemma mem_rawTexts_of_label_or {a : Aggregate} {fallback : Option String} {label : String}
    (h : a.label.or fallback = some label) : label ∈ (aggregate a fallback).rawTexts := by
  rcases hown : a.label with _ | own
  · simp_all [rawTexts]
  · refine List.mem_append_right _ (Aggregate.mem_rawTexts_of_label ?_)
    simpa [hown] using h

lemma quote_not_mem_sql {p : Projection} (h : QuoteFree p.rawTexts) : '\'' ∉ p.sql.toList := by
  cases p with
  | all => decide
  | column name => exact h name (by simp [rawTexts])
  | aggregate a fallback =>
    have hexpression := a.quote_not_mem_expression fun t ht => h t (by simp [rawTexts, ht])
    rw [sql, Aggregate.sql]
    split
    · rename_i label hlabel
      have hlabel' : '\'' ∉ label.toList := h label (mem_rawTexts_of_label_or hlabel)
      simp [String.toList_append, hexpression, hlabel']
    · exact hexpression

lemma quote_not_mem_list {items : List Projection} (h : QuoteFree (items.flatMap rawTexts)) :
    '\'' ∉ (list items).toList := by
  unfold list
  split
  · decide
  · refine quote_not_mem_intercalate (by decide) fun t ht => ?_
    obtain ⟨p, hp, rfl⟩ := List.mem_map.1 ht
    exact quote_not_mem_sql (h.of_flatMap hp)

end Projection

namespace Page

lemma quote_not_mem_clause (p : Page) : '\'' ∉ p.clause.toList := by
  have hnumber : ∀ n : UInt64, '\'' ∉ (toString n.toNat).toList := fun n =>
    (numeric_nat n.toNat).not_mem rfl
  refine quote_not_mem_intercalate (by decide) fun t ht => ?_
  simp only [List.mem_append, Option.mem_toList, Option.map_eq_some_iff] at ht
  obtain ⟨n, -, rfl⟩ | ⟨n, -, rfl⟩ := ht <;> simpa [String.toList_append] using hnumber n

end Page

lemma RowOrder.quote_not_mem_clause {order : List (String × Direction)}
    (h : QuoteFree (order.map Prod.fst)) : '\'' ∉ (RowOrder.clause order).toList := by
  unfold RowOrder.clause
  split
  · decide
  · have hitems : '\'' ∉ (", ".intercalate (order.map fun p => p.1 ++ " " ++ p.2.token)).toList := by
      refine quote_not_mem_intercalate (by decide) fun t ht => ?_
      obtain ⟨p, hp, rfl⟩ := List.mem_map.1 ht
      have hpath := h p.1 (List.mem_map_of_mem hp)
      cases p.2 <;> simpa [String.toList_append, Direction.token] using hpath
    simpa [String.toList_append] using hitems

lemma Grouping.quote_not_mem_fieldsClause {g : Grouping} (h : QuoteFree g.fields) :
    '\'' ∉ g.fieldsClause.toList := by
  unfold fieldsClause
  split
  · decide
  · have hfields := quote_not_mem_intercalate (show '\'' ∉ ", ".toList by decide) h
    simpa [String.toList_append] using hfields

namespace Statement

/-- The columns, functions, labels and paths outside of conditions. -/
def names (s : Statement) : List String :=
  s.projection.flatMap Projection.rawTexts ++ (s.grouping.getD {}).fields ++
    s.ordering.map Prod.fst

/-- Every text of a statement that is written as it was given. -/
def rawTexts (s : Statement) : List String :=
  s.table.name :: s.names ++ (s.conditions ++ s.groupConditions).flatMap Condition.rawTexts

/-- The strings that a statement is written with, in order. -/
def strings (s : Statement) : List String :=
  s.conditions.flatMap Condition.strings ++ s.groupConditions.flatMap Condition.strings

lemma getD_grouping_hollow (s : Statement) :
    s.hollow.grouping.getD {} = (s.grouping.getD {}).hollow :=
  Grouping.getD_map_hollow s.grouping

lemma hollow_sql (s : Statement) :
    s.hollow.sql = "SELECT " ++ Projection.list s.projection ++ " FROM " ++ s.table.name ++
      ((if s.isFinal then " FINAL" else "") ++ spaced s.hollow.whereClause ++
        spaced (s.grouping.getD {}).fieldsClause ++
        spaced ((s.grouping.getD {}).hollow.havingClause s.settings.escapeStrings) ++
        spaced (RowOrder.clause s.ordering) ++ spaced s.page.clause) := by
  rw [sql_eq, afterTable, getD_grouping_hollow]
  rfl

/-- A statement is cut where the hollow statement is cut. -/
theorem shaped_sql {s : Statement} (h : QuoteFree s.rawTexts)
    (hescape : s.settings.escapeStrings = true) :
    Shaped s.sql s.hollow.sql s.strings := by
  have htable : '\'' ∉ s.table.name.toList := h _ (by simp [rawTexts])
  have hitems : '\'' ∉ (Projection.list s.projection).toList :=
    Projection.quote_not_mem_list fun t ht => h t (by simp [rawTexts, names, ht])
  have hfields : '\'' ∉ (s.grouping.getD {}).fieldsClause.toList :=
    Grouping.quote_not_mem_fieldsClause fun t ht => h t (by simp [rawTexts, names, ht])
  have horder : '\'' ∉ (RowOrder.clause s.ordering).toList :=
    RowOrder.quote_not_mem_clause fun t ht => h t (by simp_all [rawTexts, names])
  have hwhere : Shaped s.whereClause s.hollow.whereClause (s.conditions.flatMap Condition.strings) := by
    rw [whereClause, whereClause, show s.hollow.settings = s.settings from rfl, hescape]
    exact Condition.shaped_clause (by decide) fun t ht => h t (by simp_all [rawTexts])
  have hhaving : Shaped ((s.grouping.getD {}).havingClause true)
      ((s.grouping.getD {}).hollow.havingClause true)
      (s.groupConditions.flatMap Condition.strings) :=
    Condition.shaped_clause (by decide) fun t ht =>
      h t (by simp_all [rawTexts, groupConditions])
  have hfront : '\'' ∉ ("SELECT " ++ Projection.list s.projection ++ " FROM " ++ s.table.name ++
      if s.isFinal then " FINAL" else "").toList := by
    cases s.isFinal <;> simp [String.toList_append, htable, hitems]
  rw [sql_eq, afterTable, hollow_sql, hescape]
  have hall := (((((Shaped.plain hfront).append hwhere.spaced).append
    (Shaped.plain hfields).spaced).append hhaving.spaced).append
      (Shaped.plain horder).spaced).append (Shaped.plain s.page.quote_not_mem_clause).spaced
  simpa [strings, String.append_assoc] using hall

lemma rawTexts_hollow (s : Statement) : s.hollow.rawTexts = s.rawTexts := by
  have hgroup : s.hollow.groupConditions = s.groupConditions.map Condition.hollow := by
    rw [groupConditions, getD_grouping_hollow]
    rfl
  have hnames : s.hollow.names = s.names := by
    rw [names, getD_grouping_hollow]
    rfl
  have hconditions : s.hollow.conditions = s.conditions.map Condition.hollow := rfl
  rw [rawTexts, hnames, hconditions, hgroup, ← List.map_append,
    Condition.flatMap_rawTexts_map_hollow]
  rfl

end Statement

namespace Call

def names : Call → List String
  | .project columns => columns
  | .aggregate items => items.flatMap fun item => item.1 :: item.2.rawTexts
  | .sort order => (order.flatten none).map Prod.fst
  | .groupBy fields => fields
  | _ => []

/-- Every text of a call that a statement is written with as it was given. -/
def rawTexts (c : Call) : List String :=
  c.names ++ (c.conditions ++ c.groupConditions).flatMap Condition.rawTexts

end Call

namespace Statement

lemma mem_names_of_call {s : Statement} {c : Call} {t : String} (h : t ∈ (s.call c).names) :
    t ∈ s.names ∨ t ∈ c.names := by
  cases c with
  | filter input =>
    rw [call, filter_eq] at h
    exact .inl h
  | project columns =>
    have hitems : (columns.map Projection.column).flatMap Projection.rawTexts = columns := by
      simp [List.flatMap_map, Projection.rawTexts]
    simp only [call, project, names, hitems, List.mem_append, Call.names] at h ⊢
    grind
  | aggregate items =>
    have hitems : (items.map fun item => Projection.aggregate item.2 (some item.1)).flatMap
        Projection.rawTexts = items.flatMap fun item => item.1 :: item.2.rawTexts := by
      simp [List.flatMap_map, Projection.rawTexts]
    simp only [call, aggregate, names, hitems, List.mem_append, Call.names] at h ⊢
    grind
  | sort order =>
    simp only [call, sort, names, List.mem_append, Call.names] at h ⊢
    grind
  | groupBy fields =>
    simp only [call, groupBy, names, List.mem_append, Call.names, Option.getD_some] at h ⊢
    grind
  | final =>
    rw [call_final] at h
    split at h <;> exact .inl h
  | _ => exact .inl h

lemma mem_rawTexts_of_call {s : Statement} {c : Call} {t : String} (h : t ∈ (s.call c).rawTexts) :
    t ∈ s.rawTexts ∨ t ∈ c.rawTexts := by
  simp only [rawTexts, call_table, call_conditions, call_groupConditions, List.flatMap_append,
    List.mem_append, List.mem_cons] at h
  simp only [rawTexts, Call.rawTexts, List.flatMap_append, List.mem_append, List.mem_cons]
  have hnames : t ∈ (s.call c).names → t ∈ s.names ∨ t ∈ c.names := mem_names_of_call
  grind

lemma quoteFree_foldl_call {s : Statement} {cs : List Call} (hs : QuoteFree s.rawTexts)
    (hcs : QuoteFree (cs.flatMap Call.rawTexts)) : QuoteFree (cs.foldl call s).rawTexts := by
  induction cs generalizing s with
  | nil => exact hs
  | cons c cs ih =>
    rw [List.foldl_cons]
    refine ih (fun t ht => ?_) fun t ht => hcs t (by simp_all)
    obtain ht | ht := mem_rawTexts_of_call ht
    · exact hs t ht
    · exact hcs t (by simp [ht])

end Statement

/-- The strings that a filter object is written with, under the operators of its keys. -/
def Lookup.strings (forced : Option Operator) : Lookup → List String
  | empty => []
  | value key v rest => v.stringsUnder (forced.getD (Key.operator key)) ++ strings forced rest
  | nested _ inner rest => strings forced inner ++ strings forced rest

lemma Lookup.strings_flatten (forced : Option Operator) (parent : Option String) (l : Lookup) :
    ((l.flatten forced parent).flatMap fun leaf => leaf.value.strings) = l.strings forced := by
  induction l generalizing parent with
  | empty => rfl
  | value key v rest ih =>
    rw [flatten, List.flatMap_cons, Comparison.strings_prepared, ih, strings]
  | nested key inner rest ihInner ihRest =>
    rw [flatten, List.flatMap_append, ihInner, ihRest, strings]

lemma Lookup.strings_condition? (forced : Option Operator) (l : Lookup) :
    (l.condition? forced).toList.flatMap Condition.strings = l.strings forced := by
  have hleaves := congrArg (List.flatMap fun leaf => leaf.value.strings) (l.leaves_condition? forced)
  rw [List.flatMap_assoc, strings_flatten] at hleaves
  exact hleaves

namespace Filter

mutual

def strings : Filter → List String
  | lookup l => l.strings none
  | condition c => c.strings
  | many inputs => stringsOfList inputs

def stringsOfList : List Filter → List String
  | [] => []
  | input :: rest => strings input ++ stringsOfList rest

end

mutual

lemma strings_conditions (input : Filter) :
    input.conditions.flatMap Condition.strings = input.strings := by
  cases input with
  | lookup l => rw [conditions, strings, l.strings_condition?]
  | condition c => rw [conditions, strings, List.flatMap_singleton]
  | many inputs => rw [conditions, strings, strings_conditionsOfList]

lemma strings_conditionsOfList (inputs : List Filter) :
    (conditionsOfList inputs).flatMap Condition.strings = stringsOfList inputs := by
  cases inputs with
  | nil => rfl
  | cons input rest =>
    rw [conditionsOfList, List.flatMap_append, strings_conditions, strings_conditionsOfList,
      stringsOfList]

end

end Filter

namespace Call

def filterStrings : Call → List String
  | .filter input => input.strings
  | .exclude l => l.strings (some .ne)
  | _ => []

def groupStrings : Call → List String
  | .having l => l.strings none
  | _ => []

lemma strings_conditions (c : Call) :
    c.conditions.flatMap Condition.strings = c.filterStrings := by
  cases c with
  | filter input =>
    have hleaves := congrArg (List.flatMap fun leaf => leaf.value.strings)
      (Condition.leaves_conjoin input.conditions)
    rw [List.flatMap_assoc, List.flatMap_assoc] at hleaves
    exact hleaves.trans input.strings_conditions
  | exclude l => exact l.strings_condition? _
  | _ => rfl

lemma strings_groupConditions (c : Call) :
    c.groupConditions.flatMap Condition.strings = c.groupStrings := by
  cases c with
  | having l => exact l.strings_condition? _
  | _ => rfl

end Call

namespace Query

variable (table : Table) (settings : Settings) (start : Option Link)

lemma build_strings (cs : List Call) (σ : Session) :
    (build table settings start cs σ).statement.strings =
      cs.flatMap Call.filterStrings ++ cs.flatMap Call.groupStrings := by
  rw [build_statement, Statement.strings, Statement.foldl_call_conditions,
    Statement.foldl_call_groupConditions]
  simp only [Statement.groupConditions, Option.getD_none, List.nil_append,
    List.flatMap_assoc, Call.strings_conditions, Call.strings_groupConditions]

/-- Two chains of calls that differ only in the contents of strings give statements that end outside
of literals, have the same texts outside of them, and have one literal for each string. -/
theorem build_same_structure (σ τ : Session) {cs ds : List Call}
    (halike : cs.map Call.hollow = ds.map Call.hollow)
    (hescape : (build table settings start cs σ).statement.settings.escapeStrings = true)
    (hraw : QuoteFree (table.name :: cs.flatMap Call.rawTexts)) :
    ∃ ps qs,
      pieces? (build table settings start cs σ).statement.sql = some ps ∧
      pieces? (build table settings start ds τ).statement.sql = some qs ∧
      outsideTexts ps = outsideTexts qs ∧
      (contents ps).length = (contents qs).length ∧
      contents ps = cs.flatMap Call.filterStrings ++ cs.flatMap Call.groupStrings ∧
      contents qs = ds.flatMap Call.filterStrings ++ ds.flatMap Call.groupStrings := by
  have hhollow : (build table settings start cs σ).statement.hollow =
      (build table settings start ds τ).statement.hollow := by
    rw [build_statement, build_statement]
    exact Statement.hollow_foldl_call rfl halike
  have hfree : QuoteFree (build table settings start cs σ).statement.rawTexts := by
    rw [build_statement]
    refine Statement.quoteFree_foldl_call (fun t ht => hraw t ?_) fun t ht => hraw t (by simp [ht])
    simp_all [Statement.rawTexts, Statement.names, Statement.groupConditions]
  -- The raw texts and the settings are kept by `hollow`, so the second chain has those of the first.
  have hfree' : QuoteFree (build table settings start ds τ).statement.rawTexts := by
    rwa [← Statement.rawTexts_hollow, ← hhollow, Statement.rawTexts_hollow]
  have hescape' : (build table settings start ds τ).statement.settings.escapeStrings = true := by
    rw [← hescape]
    exact congrArg (fun s => s.settings.escapeStrings) hhollow.symm
  obtain ⟨ps, ps₀, hps, hps₀, hpsHollow, hpsContents⟩ := Statement.shaped_sql hfree hescape
  obtain ⟨qs, qs₀, hqs, hqs₀, hqsHollow, hqsContents⟩ := Statement.shaped_sql hfree' hescape'
  rw [hhollow, hqs₀] at hps₀
  obtain rfl := Option.some.inj hps₀
  have houtside : outsideTexts ps = outsideTexts qs := by
    rw [← outsideTexts_map_hollow ps, hpsHollow, ← hqsHollow, outsideTexts_map_hollow]
  have hlength := congrArg List.length houtside
  rw [length_outsideTexts, length_outsideTexts] at hlength
  refine ⟨ps, qs, hps, hqs, houtside, by omega, ?_, ?_⟩
  · rw [hpsContents, build_strings]
  · rw [hqsContents, build_strings]

def searching (title note : String) : List Call :=
  [.filter (.lookup (.value "title__icontains" (.array [.text title, .int 7]) .empty)),
    .having (.value "note__in" (.text note) .empty)]

/-- A string with quotes and backslashes changes nothing outside of its own literal. -/
theorem build_same_structure_searching :
    ∃ ps qs,
      pieces? (build ⟨"sales", .mergeTree⟩ {} none (searching "' OR 1=1 --" "\\") {}).statement.sql =
        some ps ∧
      pieces? (build ⟨"sales", .mergeTree⟩ {} none (searching "shoes" "") {}).statement.sql = some qs ∧
      outsideTexts ps = outsideTexts qs ∧
      (contents ps).length = (contents qs).length ∧
      contents ps = ["%' OR 1=1 --,7%", "\\"] ∧
      contents qs = ["%shoes,7%", ""] := by
  have halike : (searching "' OR 1=1 --" "\\").map Call.hollow =
      (searching "shoes" "").map Call.hollow := rfl
  have hraw : QuoteFree ("sales" :: (searching "' OR 1=1 --" "\\").flatMap Call.rawTexts) := by
    decide
  exact build_same_structure ⟨"sales", .mergeTree⟩ {} none {} {} halike rfl hraw

end Query

end SqlCompose
