import SqlCompose.Proofs.FilterParts

/-!
# The entries of a filter object

An operand of a filter object stands under a key and inside objects with keys of their own. The
operands with their keys, depth first, are all that flattening reads: each of them becomes one
comparison, whose column is named by all keys on the way to the operand.
-/

namespace SqlCompose

lemma Condition.sql_all_leaves (escaping : Bool) {cs : List Comparison} (h : cs ≠ []) :
    (all (cs.map leaf)).sql escaping =
      "(" ++ " AND ".intercalate (cs.map (Comparison.sql escaping)) ++ ")" := by
  rw [all, sql_group]
  rcases cs with _ | ⟨first, _ | ⟨second, rest⟩⟩
  · exact absurd rfl h
  · simp [body_singleton, statementSql]
  · have hand : " " ++ Joiner.and.token ++ " " = " AND " := by decide
    rw [body_of_two_le escaping .and (by simp), hand, List.map_map]
    simp [Function.comp_def]

namespace Lookup

/-- An operand with its key and the keys of the objects around it, outermost first. -/
structure Entry where
  around : List String
  key : String
  operand : Value

namespace Entry

/-- The entry of an object as an entry of the object that holds it under `key`. -/
def within (key : String) (e : Entry) : Entry :=
  { e with around := key :: e.around }

/-- All keys on the way to the operand. -/
def keys (e : Entry) : List String :=
  e.around ++ [e.key]

/-- The column of the entry: the names of all keys with points between them, behind the path of the
object if it has one. -/
def path (parent : Option String) (e : Entry) : String :=
  ".".intercalate (parent.toList ++ e.keys.map Key.base)

/-- The comparison of an entry: its own key selects the operator unless one is forced. -/
def comparison (forced : Option Operator) (parent : Option String) (e : Entry) : Comparison :=
  .prepared (e.path parent) (forced.getD (Key.operator e.key)) e.operand

lemma intercalate_under (parent : Option String) (name : String) (names : List String) :
    ".".intercalate (Key.under parent name :: names) =
      ".".intercalate (parent.toList ++ name :: names) := by
  cases parent with
  | none => rfl
  | some p =>
    rw [Option.toList_some, List.singleton_append, String.intercalate_cons_cons]
    cases names with
    | nil => simp [Key.under]
    | cons second names => simp [Key.under, String.append_assoc]

lemma path_within (parent : Option String) (key : String) (e : Entry) :
    (e.within key).path parent = e.path (some (Key.under parent (Key.base key))) := by
  have hkeys : (e.within key).keys = key :: e.keys := rfl
  rw [path, path, hkeys, List.map_cons, ← intercalate_under]
  rfl

lemma comparison_within (forced : Option Operator) (parent : Option String) (key : String)
    (e : Entry) : (e.within key).comparison forced parent =
      e.comparison forced (some (Key.under parent (Key.base key))) := by
  rw [comparison, comparison, path_within]
  rfl

lemma path_some (p : String) (e : Entry) : e.path (some p) = p ++ "." ++ e.path none := by
  obtain ⟨name, names, hnames⟩ : ∃ name names, e.keys.map Key.base = name :: names :=
    List.exists_cons_of_ne_nil (by simp [keys])
  rw [path, path, hnames, Option.toList_some, Option.toList_none, List.singleton_append,
    String.intercalate_cons_cons, List.nil_append]

end Entry

/-- The operands of an object with their keys, depth first. -/
def entries : Lookup → List Entry
  | empty => []
  | value key v rest => ⟨[], key, v⟩ :: rest.entries
  | nested key inner rest => inner.entries.map (Entry.within key) ++ rest.entries

lemma entries_eq_nil_iff (l : Lookup) : l.entries = [] ↔ l.hasOperand = false := by
  induction l with
  | empty => simp [entries, hasOperand]
  | value key v rest ih => simp [entries, hasOperand]
  | nested key inner rest ihInner ihRest => simp [entries, hasOperand, ihInner, ihRest]

variable (forced : Option Operator)

theorem flatten_eq_map_entries (parent : Option String) (l : Lookup) :
    l.flatten forced parent = l.entries.map (Entry.comparison forced parent) := by
  induction l generalizing parent with
  | empty => rfl
  | value key v rest ih =>
    rw [flatten, entries, List.map_cons, ih]
    congr 1
    simp [Entry.comparison, Entry.path, Entry.keys, ← Entry.intercalate_under]
  | nested key inner rest ihInner ihRest =>
    have hinner : (inner.entries.map (Entry.within key)).map (Entry.comparison forced parent) =
        inner.flatten forced (some (Key.under parent (Key.base key))) := by
      rw [List.map_map, ihInner]
      exact List.map_congr_left fun e _ => e.comparison_within forced parent key
    rw [flatten, entries, List.map_append, hinner, ihRest]

lemma flatten_some (p : String) (l : Lookup) :
    l.flatten forced (some p) =
      (l.flatten forced none).map fun c => { c with path := p ++ "." ++ c.path } := by
  rw [flatten_eq_map_entries, flatten_eq_map_entries, List.map_map]
  refine List.map_congr_left fun e _ => ?_
  rw [Function.comp_apply, Entry.comparison, Entry.path_some]
  rfl

lemma map_sql_condition? (escaping : Bool) (l : Lookup) :
    (l.condition? forced).map (Condition.sql escaping) =
      if l.hasOperand then
        some ("(" ++ " AND ".intercalate
          ((l.flatten forced none).map (Comparison.sql escaping)) ++ ")")
      else none := by
  cases hc : l.condition? forced with
  | none => simp [(condition?_eq_none_iff forced l).1 hc]
  | some c =>
    obtain ⟨hne, rfl⟩ := eq_all_of_condition? hc
    have hoperand : l.hasOperand = true := by
      rwa [ne_eq, flatten_eq_nil_iff, Bool.not_eq_false] at hne
    rw [Option.map_some, Condition.sql_all_leaves escaping hne, if_pos hoperand]

/-- Flattening an object gives one comparison for each of its operands in order. It puts a parent in
front of every path, it flattens one part after the other, and the condition of the object is the
conjunction of the comparisons, where there are any. -/
theorem flatten_reference (l : Lookup) :
    (∀ parent, l.flatten forced parent = l.entries.map (Entry.comparison forced parent)) ∧
      (∀ p, l.flatten forced (some p) =
        (l.flatten forced none).map fun c => { c with path := p ++ "." ++ c.path }) ∧
      (∀ m parent, (l ++ m).flatten forced parent =
        l.flatten forced parent ++ m.flatten forced parent) ∧
      (∀ escaping, (l.condition? forced).map (Condition.sql escaping) =
        if l.hasOperand then
          some ("(" ++ " AND ".intercalate
            ((l.flatten forced none).map (Comparison.sql escaping)) ++ ")")
        else none) ∧
      (l.condition? forced = none ↔ l.entries = []) := by
  refine ⟨fun parent => l.flatten_eq_map_entries forced parent, fun p => l.flatten_some forced p,
    fun m parent => flatten_append forced parent l m,
    fun escaping => l.map_sql_condition? forced escaping, ?_⟩
  rw [condition?_eq_none_iff, entries_eq_nil_iff]

end Lookup

end SqlCompose
