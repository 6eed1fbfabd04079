import SqlCompose.Proofs.CallOrder
import SqlCompose.Proofs.ComparisonText
import SqlCompose.Proofs.Entries
import SqlCompose.Proofs.Identifiers
import SqlCompose.Proofs.UnfilteredDelete

/-!
# The columns of conditions

A condition names its column by a path, the names of the keys around an operand with points between
them. A key that begins with the delimiter has nothing in front of its suffix and names no column.
It is shown that such keys are the only identifiers that spoil a path: without them every comparison
of a query has a path of identifiers, and the text of a comparison shows its path.
-/

namespace SqlCompose

namespace Key

lemma base_isPrefix (key : String) : (base key).toList <+: key.toList := by
  rw [base, resolve]
  split
  · rename_i before rest hcut
    rw [Text.append_of_cut? hcut, String.toList_ofList, List.append_assoc]
    exact List.prefix_append before _
  · exact List.prefix_refl key.toList

lemma base_eq_empty_iff (key : String) :
    base key = "" ↔ key = "" ∨ delimiter.toList <+: key.toList := by
  constructor
  · intro hbase
    rw [base, resolve] at hbase
    split at hbase
    · rename_i before rest hcut
      obtain rfl : before = [] := by simpa using hbase
      exact .inr ⟨rest, (Text.append_of_cut? hcut).symm⟩
    · exact .inl hbase
  · rintro (rfl | ⟨rest, hrest⟩)
    · decide
    · obtain ⟨halves, hcut, hlength⟩ := Text.cut?_append_le delimiter.toList [] rest
      rw [List.nil_append, hrest] at hcut
      rw [base, resolve, hcut]
      obtain hnil : halves.1 = [] := List.eq_nil_of_length_eq_zero (Nat.le_zero.1 hlength)
      simp [hnil]

lemma isIdentifier_base_iff {key : String} (h : IsIdentifier key) :
    IsIdentifier (base key) ↔ ¬ delimiter.toList <+: key.toList := by
  constructor
  · intro hbase hdelimiter
    rw [(base_eq_empty_iff key).2 (.inr hdelimiter)] at hbase
    exact not_isIdentifier_empty hbase
  · intro hdelimiter
    refine h.of_isPrefix (base_isPrefix key) fun hempty => ?_
    obtain rfl | hmem := (base_eq_empty_iff key).1 hempty
    · exact not_isIdentifier_empty h
    · exact hdelimiter hmem

end Key

/-- The path of an operand under identifiers is one of identifiers, unless some key on the way to it
begins with the delimiter. -/
theorem Lookup.Entry.isDotted_path_iff {e : Entry} (h : ∀ k ∈ e.keys, IsIdentifier k) :
    IsDotted (e.path none) ↔ ∀ k ∈ e.keys, ¬ Key.delimiter.toList <+: k.toList := by
  have hpoint : ∀ name ∈ e.keys.map Key.base, '.' ∉ name.toList := by
    intro name hname
    obtain ⟨k, hk, rfl⟩ := List.mem_map.1 hname
    exact fun hmem => (h k hk).point_not_mem ((Key.base_isPrefix k).mem hmem)
  have hne : e.keys.map Key.base ≠ [] := by simp [keys]
  rw [path, Option.toList_none, List.nil_append, isDotted_intercalate_iff hne hpoint,
    List.forall_mem_map]
  exact forall₂_congr fun k hk => Key.isIdentifier_base_iff (h k hk)

namespace Call

def lookups (c : Call) : List Lookup :=
  c.parts.filterMap Sum.getLeft? ++ c.having?.toList

/-- The conditions that a call brings as they are. -/
def given (c : Call) : List Condition :=
  c.parts.filterMap Sum.getRight?

/-- The comparisons that a call adds to its statement. -/
def comparisons (c : Call) : List Comparison :=
  c.conditions.flatMap Condition.leaves ++ c.groupConditions.flatMap Condition.leaves

end Call

section paths

variable (P : String → Prop)

lemma Lookup.forall_path_flatten_iff (forced : Option Operator) (l : Lookup) :
    (∀ c ∈ l.flatten forced none, P c.path) ↔ ∀ e ∈ l.entries, P (e.path none) := by
  rw [flatten_eq_map_entries, List.forall_mem_map]
  rfl

lemma Filter.forall_path_iff (input : Filter) :
    (∀ c ∈ input.conditions.flatMap Condition.leaves, P c.path) ↔
      (∀ l ∈ input.parts.filterMap Sum.getLeft?, ∀ e ∈ l.entries, P (e.path none)) ∧
        ∀ g ∈ input.parts.filterMap Sum.getRight?, ∀ c ∈ g.leaves, P c.path := by
  rw [conditions_eq_flatMap_parts, List.flatMap_assoc]
  induction input.parts with
  | nil => simp
  | cons p rest ih =>
    rw [List.flatMap_cons, List.forall_mem_append, ih]
    cases p with
    | inl l =>
      simp [partConditions, Lookup.leaves_condition?, Lookup.forall_path_flatten_iff, and_assoc]
    | inr c => simp [partConditions, and_left_comm]

lemma Call.forall_path_iff (c : Call) :
    (∀ leaf ∈ c.comparisons, P leaf.path) ↔
      (∀ l ∈ c.lookups, ∀ e ∈ l.entries, P (e.path none)) ∧
        ∀ g ∈ c.given, ∀ leaf ∈ g.leaves, P leaf.path := by
  cases c with
  | filter input =>
    have hlookups : (filter input).lookups = input.parts.filterMap Sum.getLeft? :=
      List.append_nil _
    have hcomparisons : (filter input).comparisons =
        (Condition.conjoin input.conditions).flatMap Condition.leaves := List.append_nil _
    rw [hcomparisons, Condition.leaves_conjoin, Filter.forall_path_iff, hlookups]
    rfl
  | exclude l | having l =>
    simp [comparisons, conditions, groupConditions, lookups, having?, given, parts,
      Lookup.leaves_condition?, Lookup.forall_path_flatten_iff]
  | _ => simp [comparisons, conditions, groupConditions, lookups, having?, given, parts]

end paths

namespace Statement

def allComparisons (s : Statement) : List Comparison :=
  s.comparisons ++ s.groupConditions.flatMap Condition.leaves

lemma forall_path_foldl_call_iff (P : String → Prop) (table : Table) (settings : Settings)
    (cs : List Call) :
    (∀ c ∈ (cs.foldl call { table, settings }).allComparisons, P c.path) ↔
      (∀ l ∈ cs.flatMap Call.lookups, ∀ e ∈ l.entries, P (e.path none)) ∧
        ∀ g ∈ cs.flatMap Call.given, ∀ c ∈ g.leaves, P c.path := by
  have hrows := foldl_call_conditions { table, settings } cs
  have hgroups := foldl_call_groupConditions { table, settings } cs
  have hcalls : (∀ c ∈ (cs.foldl call { table, settings }).allComparisons, P c.path) ↔
      ∀ call ∈ cs, ∀ c ∈ call.comparisons, P c.path := by
    rw [allComparisons, comparisons, hrows, hgroups]
    simp only [groupConditions, Option.getD_none, List.nil_append, List.forall_mem_append,
      List.forall_mem_flatMap, Call.comparisons, imp_and, forall_and]
  rw [hcalls]
  simp only [Call.forall_path_iff, List.forall_mem_flatMap, imp_and, forall_and]

end Statement

/-- A comparison begins with its path, or with the name of the function that is called on it. -/
lemma Comparison.exists_sql_eq (c : Comparison) (escaping : Bool) :
    ∃ rest, c.sql escaping = c.path ++ " " ++ rest ∨
      c.sql escaping = "hasAny(" ++ c.path ++ ", " ++ rest := by
  by_cases hnull : c.value.isNull = true
  · exact ⟨"IS NULL", .inl (by rw [sql_of_isNull hnull, String.append_assoc]; rfl)⟩
  rw [Bool.not_eq_true] at hnull
  by_cases hop : c.operator.isMembership = false
  · rw [sql_of_not_isMembership hnull hop]
    exact ⟨c.operator.token ++ " " ++ c.value.literal escaping,
      .inl (by simp [String.append_assoc])⟩
  · obtain hop | hop := Operator.eq_isIn_or_eq_hasAny hop
    · rw [sql_of_isIn hnull hop]
      have hsplit : " IN (" = " " ++ "IN (" := by decide
      exact ⟨"IN (" ++ c.value.candidates escaping ++ ")",
        .inl (by simp only [hsplit, String.append_assoc])⟩
    · rw [sql_of_hasAny hnull hop]
      exact ⟨c.value.arrayArgument escaping ++ ")", .inr (by simp only [String.append_assoc])⟩

namespace Query

/-- Where every key of every filter object is an identifier, each comparison that a chain of calls
leaves in its statement has a path of identifiers exactly when no key begins with the delimiter. The
text of a comparison begins with its path, or calls a function on it. -/
theorem build_paths_dotted_iff (table : Table) (settings : Settings) (start : Option Link)
    (cs : List Call) (σ : Session)
    (hkeys : ∀ l ∈ cs.flatMap Call.lookups, ∀ e ∈ l.entries, ∀ k ∈ e.keys, IsIdentifier k)
    (hgiven : ∀ g ∈ cs.flatMap Call.given, ∀ c ∈ g.leaves, IsDotted c.path) :
    ((∀ c ∈ (build table settings start cs σ).statement.allComparisons, IsDotted c.path) ↔
        ∀ l ∈ cs.flatMap Call.lookups, ∀ e ∈ l.entries, ∀ k ∈ e.keys,
          ¬ Key.delimiter.toList <+: k.toList) ∧
      ∀ (c : Comparison) (escaping : Bool),
        ∃ rest, c.sql escaping = c.path ++ " " ++ rest ∨
          c.sql escaping = "hasAny(" ++ c.path ++ ", " ++ rest := by
  refine ⟨?_, Comparison.exists_sql_eq⟩
  have hentries : ∀ l ∈ cs.flatMap Call.lookups,
      (∀ e ∈ l.entries, IsDotted (e.path none)) ↔
        ∀ e ∈ l.entries, ∀ k ∈ e.keys, ¬ Key.delimiter.toList <+: k.toList :=
    fun l hl => forall₂_congr fun e he => Lookup.Entry.isDotted_path_iff (hkeys l hl e he)
  rw [build_statement, Statement.forall_path_foldl_call_iff, and_iff_left hgiven]
  exact forall₂_congr hentries

/-- Objects inside objects, suffixes, a forced operator and a column that begins with an
underscore: each comparison keeps its column. -/
theorem build_paths_dotted_nested :
    let rows : Lookup := .nested "customer" (.value "zip_code__has_any" (.text "7") .empty)
      (.value "_id__gte" (.int 1) .empty)
    let cs : List Call := [.filter (.lookup rows),
      .exclude (.value "status__in" (.array []) .empty),
      .having (.value "total__gt" (.int 5) .empty)]
    let s := (build ⟨"sales", .mergeTree⟩ {} none cs {}).statement
    (∀ l ∈ cs.flatMap Call.lookups, ∀ e ∈ l.entries, ∀ k ∈ e.keys, IsIdentifier k) ∧
      (∀ g ∈ cs.flatMap Call.given, ∀ c ∈ g.leaves, IsDotted c.path) ∧
      s.allComparisons.map Comparison.path = ["customer.zip_code", "_id", "status", "total"] ∧
      ∀ c ∈ s.allComparisons, IsDotted c.path := by
  intro rows cs s
  have hkeys : ∀ l ∈ cs.flatMap Call.lookups, ∀ e ∈ l.entries, ∀ k ∈ e.keys, IsIdentifier k := by
    decide
  have hgiven : ∀ g ∈ cs.flatMap Call.given, ∀ c ∈ g.leaves, IsDotted c.path := by
    rintro g ⟨⟩
  refine ⟨hkeys, hgiven, rfl, ?_⟩
  exact (build_paths_dotted_iff ⟨"sales", .mergeTree⟩ {} none cs {} hkeys hgiven).1.2 (by decide)

/-- A key that begins with the delimiter compares nothing with its operand. -/
theorem filter_key_of_delimiter :
    let l : Lookup := .value "__gt" (.int 5) .empty
    let s := (build ⟨"sales", .mergeTree⟩ {} none [.filter (.lookup l)] {}).statement
    (∀ e ∈ l.entries, ∀ k ∈ e.keys, IsIdentifier k) ∧
      s.allComparisons = [⟨"", .gt, .int 5⟩] ∧ ¬ IsDotted "" ∧
      s.sql = "SELECT * FROM sales WHERE ( > 5)" := by
  refine ⟨by decide, rfl, ?_, by decide⟩
  have hiff := @isDotted_intercalate_iff [""] (by decide) (by decide)
  exact fun h => not_isIdentifier_empty (hiff.1 h "" (by decide))

end Query

end SqlCompose
