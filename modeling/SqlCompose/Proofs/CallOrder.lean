import SqlCompose.Proofs.FilterParts
import SqlCompose.Proofs.StatementText

/-!
# The order of calls

Filters and conditions on groups add up in the order of their calls, every other call replaces what
an earlier call of its kind gave, and binding a source changes no text. So the text of a statement
depends on a chain of calls by the outline below and by nothing else, and each clause stands in it
exactly when the outline asks for it.
-/

namespace SqlCompose

/-- Some field of the order, at any depth, has a direction. -/
def RowOrder.hasDirection : RowOrder → Bool
  | empty => false
  | field _ _ _ => true
  | nested _ inner rest => inner.hasDirection || rest.hasDirection

lemma RowOrder.flatten_eq_nil_iff (parent : Option String) (o : RowOrder) :
    o.flatten parent = [] ↔ o.hasDirection = false := by
  induction o generalizing parent with
  | empty => simp [flatten, hasDirection]
  | field name d rest ih => simp [flatten, hasDirection]
  | nested name inner rest ihInner ihRest => simp [flatten, hasDirection, ihInner, ihRest]

namespace Call

def isFilter : Call → Bool
  | .filter _ => true
  | .exclude _ => true
  | _ => false

def isFinal : Call → Bool
  | .final => true
  | _ => false

def having? : Call → Option Lookup
  | .having l => some l
  | _ => none

def selection? : Call → Option (List Projection)
  | .project columns => some (columns.map .column)
  | .aggregate items => some (items.map fun item => .aggregate item.2 (some item.1))
  | _ => none

def order? : Call → Option RowOrder
  | .sort order => some order
  | _ => none

def fields? : Call → Option (List String)
  | .groupBy fields => some fields
  | _ => none

def limit? : Call → Option UInt64
  | .limit n => some n
  | _ => none

def offset? : Call → Option UInt64
  | .offset n => some n
  | _ => none

def settings? : Call → Option Settings
  | .withSettings settings => some settings
  | _ => none

def regroup (g : Option Grouping) : Call → Option Grouping
  | .groupBy fields => some { g.getD {} with fields }
  | .having l => some ((g.getD {}).withLookup l)
  | _ => g

/-- What the last call of a kind gives, if there is a call of that kind. -/
def last? {β : Type} (given : Call → Option β) (cs : List Call) : Option β :=
  (cs.filterMap given).getLast?

lemma last?_cons {β : Type} (given : Call → Option β) (c : Call) (cs : List Call) :
    last? given (c :: cs) = (last? given cs).or (given c) := by
  unfold last?
  rw [List.filterMap_cons]
  cases given c with
  | none => simp
  | some b => rw [List.getLast?_cons]; cases (cs.filterMap given).getLast? <;> rfl

end Call

/-- What a chain of calls leaves of itself in the text of its statement. -/
structure Outline where
  filters : List Call
  groupFilters : List Lookup
  selection : Option (List Projection)
  order : Option RowOrder
  fields : Option (List String)
  limit : Option UInt64
  offset : Option UInt64
  settings : Option Settings
  isFinal : Bool

/-- The calls that add up in order, and the last call of each kind that replaces. A final read is
accepted on a table whose engine replaces rows. -/
def outline (table : Table) (cs : List Call) : Outline where
  filters := cs.filter Call.isFilter
  groupFilters := cs.filterMap Call.having?
  selection := Call.last? Call.selection? cs
  order := Call.last? Call.order? cs
  fields := Call.last? Call.fields? cs
  limit := Call.last? Call.limit? cs
  offset := Call.last? Call.offset? cs
  settings := Call.last? Call.settings? cs
  isFinal := table.engine.isReplacing && cs.any Call.isFinal

namespace Outline

variable (o : Outline) (settings : Settings)

def conjunction (cs : List Condition) : String :=
  (Condition.conjunction? (o.settings.getD settings).escapeStrings cs).getD ""

/-- The clauses behind the table, each with the condition under which it is there. -/
def clauses : List String :=
  (if o.isFinal then ["FINAL"] else []) ++
  (if o.filters.any Call.contributes then
    ["WHERE " ++ o.conjunction settings (o.filters.flatMap Call.conditions)] else []) ++
  (if o.fields.any (· ≠ []) then ["GROUP BY " ++ ", ".intercalate (o.fields.getD [])] else []) ++
  (if o.groupFilters.any Lookup.hasOperand then
    ["HAVING " ++ o.conjunction settings (o.groupFilters.flatMap fun l => (l.condition? none).toList)]
    else []) ++
  (if o.order.any RowOrder.hasDirection then
    ["ORDER BY " ++ ", ".intercalate
      (((o.order.getD .empty).flatten none).map fun p => p.1 ++ " " ++ p.2.token)] else []) ++
  (o.limit.map fun n => "LIMIT " ++ toString n.toNat).toList ++
  (o.offset.map fun n => "OFFSET " ++ toString n.toNat).toList

def text (table : Table) : String :=
  " ".intercalate
    (("SELECT " ++ Projection.list (o.selection.getD []) ++ " FROM " ++ table.name) ::
      o.clauses settings)

end Outline

namespace Statement

/-- A part that each call replaces or keeps is given by the last call that replaces it. -/
theorem foldl_call_of_replacing {α β : Type} (part : Statement → α) {given : Call → Option β}
    {f : β → α} (hstep : ∀ s c, part (call s c) = (given c).elim (part s) f) (s : Statement)
    (cs : List Call) : part (cs.foldl call s) = (Call.last? given cs).elim (part s) f := by
  induction cs generalizing s with
  | nil => rfl
  | cons c cs ih =>
    -- What the calls behind `c` give comes before what `c` gives.
    rw [List.foldl_cons, ih, hstep, Call.last?_cons]
    cases Call.last? given cs <;> rfl

lemma foldl_call_table (s : Statement) (cs : List Call) : (cs.foldl call s).table = s.table := by
  induction cs generalizing s with
  | nil => rfl
  | cons c cs ih => rw [List.foldl_cons, ih, call_table]

def fields (s : Statement) : List String :=
  (s.grouping.getD {}).fields

/-- What a call does to each part of a statement. -/
lemma call_eq (s : Statement) (c : Call) :
    s.call c = { s with
      conditions := s.conditions ++ c.conditions
      projection := c.selection?.elim s.projection id
      ordering := c.order?.elim s.ordering (·.flatten none)
      page.limit := c.limit?.elim s.page.limit some
      page.offset := c.offset?.elim s.page.offset some
      isFinal := s.isFinal || (s.table.engine.isReplacing && c.isFinal)
      grouping := c.regroup s.grouping
      settings := c.settings?.elim s.settings id } := by
  cases c with
  | filter input =>
    rw [call, filter_eq]
    simp [Call.conditions, Call.selection?, Call.order?, Call.limit?, Call.offset?, Call.settings?,
      Call.regroup, Call.isFinal]
  | final =>
    rw [call_final]
    split <;> simp_all [Call.conditions, Call.selection?, Call.order?, Call.limit?, Call.offset?,
      Call.settings?, Call.regroup, Call.isFinal]
  | _ =>
    simp [call, exclude, having, project, aggregate, sort, groupBy, limit, offset, withSettings,
      Call.conditions, Call.selection?, Call.order?, Call.limit?, Call.offset?, Call.settings?,
      Call.regroup, Call.isFinal]

lemma call_fields (s : Statement) (c : Call) :
    (s.call c).fields = c.fields?.elim s.fields id := by
  rw [call_eq, fields]
  cases c <;> rfl

lemma foldl_call_isFinal (s : Statement) (cs : List Call) :
    (cs.foldl call s).isFinal =
      (s.isFinal || (s.table.engine.isReplacing && cs.any Call.isFinal)) := by
  induction cs generalizing s with
  | nil => simp
  | cons c cs ih =>
    rw [List.foldl_cons, ih, call_table, call_eq, List.any_cons]
    cases s.isFinal <;> cases s.table.engine.isReplacing <;> rfl

end Statement

namespace Call

lemma flatMap_filter_conditions (cs : List Call) :
    (cs.filter isFilter).flatMap conditions = cs.flatMap conditions := by
  induction cs with
  | nil => rfl
  | cons c cs ih =>
    rw [List.filter_cons]
    cases c <;> simp [isFilter, conditions, ih]

lemma flatMap_having?_condition? (cs : List Call) :
    (cs.filterMap having?).flatMap (fun l => (l.condition? none).toList) =
      cs.flatMap groupConditions := by
  induction cs with
  | nil => rfl
  | cons c cs ih =>
    rw [List.filterMap_cons]
    cases c <;> simp [having?, groupConditions, ih]

end Call

section clauses

lemma join_present {P : Prop} [Decidable P] (clause : String) :
    String.join ((if P then [clause] else []).map (" " ++ ·)) =
      if P then " " ++ clause else "" := by
  split <;> simp

lemma spaced_clause {keyword : String} (hkey : keyword ≠ "") (escaping : Bool)
    (cs : List Condition) :
    spaced (Condition.clause keyword escaping cs) =
      if cs ≠ [] then
        " " ++ (keyword ++ " " ++ (Condition.conjunction? escaping cs).getD "") else "" := by
  by_cases hcs : cs = []
  · subst hcs
    rfl
  · have hsome : Condition.conjunction? escaping cs ≠ none := by
      rwa [ne_eq, Condition.conjunction?_eq_none_iff]
    obtain ⟨body, hbody⟩ := Option.ne_none_iff_exists'.1 hsome
    rw [Condition.clause, hbody, if_pos hcs]
    simp [spaced, hkey]

lemma spaced_orderClause (order : List (String × Direction)) :
    spaced (RowOrder.clause order) =
      if order ≠ [] then
        " " ++ ("ORDER BY " ++ ", ".intercalate (order.map fun p => p.1 ++ " " ++ p.2.token))
      else "" := by
  cases order with
  | nil => rfl
  | cons p order => simp [spaced, RowOrder.clause]

lemma spaced_fieldsClause (g : Grouping) :
    spaced g.fieldsClause =
      if g.fields ≠ [] then " " ++ ("GROUP BY " ++ ", ".intercalate g.fields) else "" := by
  obtain ⟨fields, having⟩ := g
  cases fields with
  | nil => rfl
  | cons field fields => simp [spaced, Grouping.fieldsClause]

lemma spaced_pageClause (p : Page) :
    spaced p.clause =
      String.join ((p.limit.map fun n => "LIMIT " ++ toString n.toNat).toList.map (" " ++ ·)) ++
        String.join ((p.offset.map fun n => "OFFSET " ++ toString n.toNat).toList.map (" " ++ ·)) := by
  obtain ⟨limit, offset⟩ := p
  cases limit <;> cases offset <;> simp [spaced, Page.clause, String.intercalate_cons_cons,
    String.append_assoc]

end clauses

/-- The statement has the parts that the outline gives, and those of `settings` otherwise. -/
structure Outline.Describes (o : Outline) (settings : Settings) (s : Statement) : Prop where
  conditions : s.conditions = o.filters.flatMap Call.conditions
  groupConditions :
    s.groupConditions = o.groupFilters.flatMap fun l => (l.condition? none).toList
  projection : s.projection = o.selection.getD []
  ordering : s.ordering = (o.order.getD .empty).flatten none
  fields : s.fields = o.fields.getD []
  limit : s.page.limit = o.limit
  offset : s.page.offset = o.offset
  isFinal : s.isFinal = o.isFinal
  settings : s.settings = o.settings.getD settings

section

variable {α : Type} (o : Option α)

lemma elim_id_eq_getD (a : α) : o.elim a id = o.getD a := by
  cases o <;> rfl

lemma elim_none_some : o.elim none some = o := by
  cases o <;> rfl

end

lemma describes_foldl_call (table : Table) (settings : Settings) (cs : List Call) :
    (outline table cs).Describes settings (cs.foldl Statement.call { table, settings }) where
  conditions := by
    rw [Statement.foldl_call_conditions]
    exact (Call.flatMap_filter_conditions cs).symm
  groupConditions := by
    rw [Statement.foldl_call_groupConditions]
    exact (Call.flatMap_having?_condition? cs).symm
  projection := by
    rw [Statement.foldl_call_of_replacing Statement.projection
      fun s c => congrArg Statement.projection (s.call_eq c)]
    exact elim_id_eq_getD _ _
  ordering := by
    rw [Statement.foldl_call_of_replacing Statement.ordering
      fun s c => congrArg Statement.ordering (s.call_eq c)]
    change _ = ((Call.last? Call.order? cs).getD .empty).flatten none
    cases Call.last? Call.order? cs <;> rfl
  fields := by
    rw [Statement.foldl_call_of_replacing Statement.fields Statement.call_fields]
    exact elim_id_eq_getD _ _
  limit := by
    rw [Statement.foldl_call_of_replacing (fun s => s.page.limit)
      fun s c => congrArg (fun t => t.page.limit) (s.call_eq c)]
    exact elim_none_some _
  offset := by
    rw [Statement.foldl_call_of_replacing (fun s => s.page.offset)
      fun s c => congrArg (fun t => t.page.offset) (s.call_eq c)]
    exact elim_none_some _
  isFinal := by
    rw [Statement.foldl_call_isFinal]
    rfl
  settings := by
    rw [Statement.foldl_call_of_replacing Statement.settings
      fun s c => congrArg Statement.settings (s.call_eq c)]
    exact elim_id_eq_getD _ _

lemma Outline.Describes.sql_eq {o : Outline} {settings : Settings} {s : Statement}
    (h : o.Describes settings s) : s.sql = o.text settings s.table := by
  have hgroupConditions : (s.grouping.getD {}).having =
      o.groupFilters.flatMap fun l => (l.condition? none).toList := h.groupConditions
  have hgroupFields : (s.grouping.getD {}).fields = o.fields.getD [] := h.fields
  -- A clause is there when its list is not empty, which the outline says in terms of the calls.
  have hfilters : s.conditions ≠ [] ↔ o.filters.any Call.contributes = true := by
    rw [h.conditions, ne_eq, Call.flatMap_conditions_eq_nil_iff, Bool.not_eq_false]
  have hgroups : (s.grouping.getD {}).having ≠ [] ↔
      o.groupFilters.any Lookup.hasOperand = true := by
    rw [hgroupConditions, ne_eq, List.flatMap_eq_nil_iff, List.any_eq_true]
    simp [Lookup.condition?_eq_none_iff]
  have hfields : (s.grouping.getD {}).fields ≠ [] ↔ o.fields.any (· ≠ []) = true := by
    rw [hgroupFields]
    cases o.fields <;> simp
  have horder : s.ordering ≠ [] ↔ o.order.any RowOrder.hasDirection = true := by
    rw [h.ordering]
    cases o.order with
    | none => simp [RowOrder.flatten]
    | some order => simp [RowOrder.flatten_eq_nil_iff]
  have hwhere : s.whereClause = Condition.clause "WHERE" s.settings.escapeStrings s.conditions := rfl
  have hhaving : (s.grouping.getD {}).havingClause s.settings.escapeStrings =
    Condition.clause "HAVING" s.settings.escapeStrings (s.grouping.getD {}).having := rfl
  have hwords : "WHERE" ++ " " = "WHERE " ∧ "HAVING" ++ " " = "HAVING " ∧
      " " ++ "FINAL" = " FINAL" := by decide
  rw [Statement.sql_eq, Statement.afterTable, hwhere, hhaving, spaced_clause (by decide),
    spaced_clause (by decide), spaced_fieldsClause, spaced_orderClause, spaced_pageClause]
  simp only [hfilters, hgroups, hfields, horder]
  rw [hgroupConditions, hgroupFields, h.conditions, h.projection, h.ordering, h.limit, h.offset,
    h.isFinal, h.settings]
  simp only [text, clauses, conjunction, Statement.intercalate_blank_cons, List.map_append,
    String.join_append, join_present, hwords, String.append_assoc]

theorem Statement.sql_foldl_call (table : Table) (settings : Settings) (cs : List Call) :
    (cs.foldl call { table, settings }).sql = (outline table cs).text settings table := by
  rw [(describes_foldl_call table settings cs).sql_eq, foldl_call_table]

namespace Query

/-- The text of a built query is the text of the outline of its calls. So chains with one outline
build queries with one text, whatever sources they bind. -/
theorem build_sql_of_outline (table : Table) (settings : Settings) (start : Option Link)
    (cs : List Call) (σ : Session) :
    (build table settings start cs σ).statement.sql = (outline table cs).text settings table ∧
      ∀ (ds : List Call) (start' : Option Link) (τ : Session),
        outline table cs = outline table ds →
          (build table settings start cs σ).statement.sql =
            (build table settings start' ds τ).statement.sql := by
  have htext : ∀ (ds : List Call) (start' : Option Link) (τ : Session),
      (build table settings start' ds τ).statement.sql = (outline table ds).text settings table := by
    intro ds start' τ
    rw [build_statement, Statement.sql_foldl_call]
  refine ⟨htext cs start σ, fun ds start' τ houtline => ?_⟩
  rw [htext cs start σ, htext ds start' τ, houtline]

/-- Limits and groupings that are replaced later, conditions on groups before and after them. -/
def replacing : List Call :=
  [.limit 5, .having (.value "total__gt" (.int 5) .empty), .final, .groupBy ["city"],
    .filter (.lookup (.value "id" (.int 1) .empty)), .project ["day"], .groupBy ["day"],
    .sort (.nested "m" (.field "t" .desc .empty) .empty), .limit 10]

def replaced : List Call :=
  [.filter (.lookup (.value "id" (.int 1) .empty)), .sort .empty, .limit 10, .groupBy ["day"],
    .sort (.nested "m" (.field "t" .desc .empty) .empty), .aggregate [], .project ["day"],
    .having (.value "total__gt" (.int 5) .empty), .final, .final]

theorem build_sql_replacing :
    outline ⟨"snapshots", .replacingMergeTree⟩ replacing =
        outline ⟨"snapshots", .replacingMergeTree⟩ replaced ∧
      (build ⟨"snapshots", .replacingMergeTree⟩ {} none replacing {}).statement.sql =
        "SELECT day FROM snapshots FINAL WHERE (id = 1) GROUP BY day HAVING (total > 5)" ++
          " ORDER BY m.t DESC LIMIT 10" ∧
      (build ⟨"snapshots", .replacingMergeTree⟩ {} none replacing {}).statement.sql =
        (build ⟨"snapshots", .replacingMergeTree⟩ {} none replaced {}).statement.sql := by
  have houtline : outline ⟨"snapshots", .replacingMergeTree⟩ replacing =
      outline ⟨"snapshots", .replacingMergeTree⟩ replaced := rfl
  obtain ⟨htext, hsame⟩ :=
    build_sql_of_outline ⟨"snapshots", .replacingMergeTree⟩ {} none replacing {}
  refine ⟨houtline, ?_, hsame replaced none {} houtline⟩
  rw [htext]
  decide

end Query

end SqlCompose
