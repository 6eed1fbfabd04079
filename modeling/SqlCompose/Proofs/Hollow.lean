import SqlCompose.Proofs.Calls
import SqlCompose.Proofs.ComparisonText
import SqlCompose.Proofs.ConditionTree

/-!
# Statements with hollow strings

Two chains of calls differ only in the contents of their strings when they are equal once every
string is made empty. Building a statement keeps this: what the statements hold differs only in the
contents of strings as well.
-/

namespace SqlCompose

namespace Value

mutual

/-- The operand with every string in it made empty. -/
def hollow : Value → Value
  | text _ => text ""
  | array items => array (hollows items)
  | v => v

def hollows : List Value → List Value
  | [] => []
  | v :: rest => hollow v :: hollows rest

end

lemma hollows_eq_map (items : List Value) : hollows items = items.map hollow := by
  induction items with
  | nil => rfl
  | cons v rest ih => simp [hollows, ih]

lemma hollow_array (items : List Value) : (array items).hollow = array (items.map hollow) := by
  rw [hollow, hollows_eq_map]

@[simp] lemma isNull_hollow (v : Value) : v.hollow.isNull = v.isNull := by
  cases v <;> simp [hollow, isNull]

lemma hollow_hollow (v : Value) : v.hollow.hollow = v.hollow := by
  induction v using induct with
  | array items ih =>
    rw [hollow_array, hollow_array, List.map_map]
    exact congrArg array (List.map_congr_left ih)
  | _ => simp [hollow]

lemma hollow_likePattern (v : Value) :
    v.likePattern.hollow = v.hollow.likePattern.hollow := by
  cases v <;> simp [hollow, likePattern]

lemma hollow_asList (v : Value) : v.asList.hollow = v.hollow.asList := by
  cases v <;> simp [hollow, hollows, asList]

end Value

namespace Comparison

def hollow (c : Comparison) : Comparison :=
  { c with value := c.value.hollow }

lemma hollow_prepared (path : String) (op : Operator) (v : Value) :
    (prepared path op v).hollow = (prepared path op v.hollow).hollow := by
  simp only [prepared, hollow, mk.injEq, true_and]
  split
  · exact v.hollow_likePattern
  · split
    · rw [v.hollow_asList, v.hollow.hollow_asList, v.hollow_hollow]
    · exact v.hollow_hollow.symm

end Comparison

namespace Condition

mutual

def hollow : Condition → Condition
  | leaf c => leaf c.hollow
  | group joiner negated members => group joiner negated (hollows members)

def hollows : List Condition → List Condition
  | [] => []
  | c :: rest => hollow c :: hollows rest

end

lemma hollows_eq_map (cs : List Condition) : hollows cs = cs.map hollow := by
  induction cs with
  | nil => rfl
  | cons c rest ih => simp [hollows, ih]

@[simp] lemma hollow_leaf (c : Comparison) : (leaf c).hollow = leaf c.hollow := by
  rw [hollow]

@[simp] lemma hollow_group (joiner : Joiner) (negated : Bool) (members : List Condition) :
    (group joiner negated members).hollow = group joiner negated (members.map hollow) := by
  rw [hollow, hollows_eq_map]

lemma hollow_hollow (c : Condition) : c.hollow.hollow = c.hollow := by
  induction c using induct with
  | leaf c => simp [Comparison.hollow, Value.hollow_hollow]
  | group joiner negated members ih =>
    rw [hollow_group, hollow_group, List.map_map]
    exact congrArg (group joiner negated) (List.map_congr_left ih)

lemma map_hollow_map_hollow (cs : List Condition) :
    (cs.map hollow).map hollow = cs.map hollow := by
  rw [List.map_map]
  exact List.map_congr_left fun c _ => hollow_hollow c

lemma map_hollow_conjoin (cs : List Condition) :
    (conjoin cs).map hollow = conjoin (cs.map hollow) := by
  unfold conjoin
  rcases cs with _ | ⟨first, _ | ⟨second, rest⟩⟩ <;> simp [all]

end Condition

namespace Lookup

def hollow : Lookup → Lookup
  | empty => empty
  | value key v rest => value key v.hollow rest.hollow
  | nested key inner rest => nested key inner.hollow rest.hollow

variable (forced : Option Operator)

lemma map_hollow_flatten (parent : Option String) (l : Lookup) :
    (l.flatten forced parent).map Comparison.hollow =
      (l.hollow.flatten forced parent).map Comparison.hollow := by
  induction l generalizing parent with
  | empty => rfl
  | value key v rest ih =>
    simp only [flatten, hollow, List.map_cons, ih]
    rw [Comparison.hollow_prepared]
  | nested key inner rest ihInner ihRest =>
    simp only [flatten, hollow, List.map_append, ihInner, ihRest]

lemma map_hollow_condition? (l : Lookup) :
    (l.condition? forced).map Condition.hollow =
      (l.hollow.condition? forced).map Condition.hollow := by
  have hflat := l.map_hollow_flatten forced none
  simp only [condition?]
  generalize l.flatten forced none = cs at hflat ⊢
  generalize l.hollow.flatten forced none = ds at hflat ⊢
  cases cs with
  | nil =>
    obtain rfl : ds = [] := by simpa using hflat
    rfl
  | cons c cs =>
    cases ds with
    | nil => simp at hflat
    | cons d ds =>
      have hleaves := congrArg (List.map Condition.leaf) hflat
      simp only [List.map_map, Function.comp_def] at hleaves
      simp only [Condition.all, Option.map_some, Condition.hollow_group, List.map_map,
        Function.comp_def, Condition.hollow_leaf, hleaves]

end Lookup

namespace Filter

mutual

def hollow : Filter → Filter
  | lookup l => lookup l.hollow
  | condition c => condition c.hollow
  | many inputs => many (hollows inputs)

def hollows : List Filter → List Filter
  | [] => []
  | input :: rest => hollow input :: hollows rest

end

mutual

lemma map_hollow_conditions (input : Filter) :
    input.conditions.map Condition.hollow = input.hollow.conditions.map Condition.hollow := by
  cases input with
  | lookup l => simp only [conditions, hollow, ← Option.toList_map, l.map_hollow_condition? none]
  | condition c => simp [conditions, hollow, Condition.hollow_hollow]
  | many inputs => rw [conditions, hollow, conditions, map_hollow_conditionsOfList]

lemma map_hollow_conditionsOfList (inputs : List Filter) :
    (conditionsOfList inputs).map Condition.hollow =
      (conditionsOfList (hollows inputs)).map Condition.hollow := by
  cases inputs with
  | nil => rfl
  | cons input rest =>
    simp only [conditionsOfList, hollows, List.map_append, map_hollow_conditions input,
      map_hollow_conditionsOfList rest]

end

end Filter

def Call.hollow : Call → Call
  | .filter input => .filter input.hollow
  | .exclude l => .exclude l.hollow
  | .having l => .having l.hollow
  | c => c

def Grouping.hollow (g : Grouping) : Grouping :=
  { g with having := g.having.map Condition.hollow }

namespace Grouping

lemma hollow_hollow (g : Grouping) : g.hollow.hollow = g.hollow := by
  simp only [hollow, Condition.map_hollow_map_hollow]

lemma hollow_withLookup (g : Grouping) (l : Lookup) :
    (g.withLookup l).hollow = (g.hollow.withLookup l.hollow).hollow := by
  simp only [withLookup, hollow, List.map_append, ← Option.toList_map, l.map_hollow_condition?,
    Condition.map_hollow_map_hollow]

lemma getD_map_hollow (g : Option Grouping) : (g.map hollow).getD {} = (g.getD {}).hollow := by
  cases g <;> rfl

end Grouping

namespace Statement

def hollow (s : Statement) : Statement :=
  { s with
    conditions := s.conditions.map Condition.hollow
    grouping := s.grouping.map Grouping.hollow }

lemma map_hollow_map_hollow_grouping (g : Option Grouping) :
    (g.map Grouping.hollow).map Grouping.hollow = g.map Grouping.hollow := by
  cases g with
  | none => rfl
  | some g => rw [Option.map_some, Option.map_some, Grouping.hollow_hollow]

/-- What a call makes of a statement depends on the contents of strings only by them. -/
lemma hollow_call (s : Statement) (c : Call) :
    (s.call c).hollow = (s.hollow.call c.hollow).hollow := by
  -- The right side is made hollow once more, as a pattern is written around an empty string too.
  cases c with
  | filter input =>
    simp only [call, Call.hollow, filter_eq, hollow, List.map_append,
      Condition.map_hollow_conjoin, input.map_hollow_conditions, Condition.map_hollow_map_hollow,
      map_hollow_map_hollow_grouping]
  | exclude l =>
    simp only [call, Call.hollow, exclude, hollow, List.map_append, ← Option.toList_map,
      l.map_hollow_condition?, Condition.map_hollow_map_hollow, map_hollow_map_hollow_grouping]
  | having l =>
    have hgroup : ((s.grouping.getD {}).withLookup l).hollow =
        (((s.grouping.map Grouping.hollow).getD {}).withLookup l.hollow).hollow := by
      rw [Grouping.getD_map_hollow, Grouping.hollow_withLookup]
    simp only [call, Call.hollow, having, hollow, Option.map_some, hgroup,
      Condition.map_hollow_map_hollow]
  | groupBy fields =>
    have hgroup : Grouping.hollow { s.grouping.getD {} with fields } =
        Grouping.hollow { (s.grouping.map Grouping.hollow).getD {} with fields } := by
      rw [Grouping.getD_map_hollow]
      simp only [Grouping.hollow, Condition.map_hollow_map_hollow]
    simp only [call, Call.hollow, groupBy, hollow, Option.map_some, hgroup,
      Condition.map_hollow_map_hollow]
  | final =>
    have hcall : Call.final.hollow = .final := rfl
    rw [hcall, call_final, call_final]
    by_cases h : s.table.engine.isReplacing = true <;>
      simp only [hollow, h, Condition.map_hollow_map_hollow, map_hollow_map_hollow_grouping,
        if_true, if_false, Bool.false_eq_true]
  | _ =>
    simp only [call, Call.hollow, project, aggregate, sort, limit, offset, withSettings, hollow,
      Condition.map_hollow_map_hollow, map_hollow_map_hollow_grouping]

/-- Chains that are equal when hollow build statements that are equal when hollow. -/
theorem hollow_foldl_call {s t : Statement} (hst : s.hollow = t.hollow) {cs ds : List Call}
    (h : cs.map Call.hollow = ds.map Call.hollow) :
    (cs.foldl call s).hollow = (ds.foldl call t).hollow := by
  induction cs generalizing s t ds with
  | nil =>
    obtain rfl : ds = [] := by simpa using h.symm
    exact hst
  | cons c cs ih =>
    cases ds with
    | nil => simp at h
    | cons d ds =>
      rw [List.map_cons, List.map_cons] at h
      obtain ⟨hcall, hrest⟩ := List.cons.inj h
      rw [List.foldl_cons, List.foldl_cons]
      refine ih ?_ hrest
      rw [hollow_call, hst, hcall, ← hollow_call]

end Statement

end SqlCompose
