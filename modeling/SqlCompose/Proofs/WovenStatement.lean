import SqlCompose.Proofs.LiteralStructure
import SqlCompose.Proofs.Woven

/-!
# How statements are woven

What a statement selects, its clauses and its whole text are woven as conditions are.
-/

namespace SqlCompose

open Text

variable {Given : String → Prop}

namespace Aggregate

lemma woven_expression {a : Aggregate} (h : ∀ t ∈ a.rawTexts, Bare t) :
    Woven Given a.expression := by
  induction a with
  | onColumn function column label =>
    exact .call (.bare (h function (by simp [rawTexts]))) (.bare (h column (by simp [rawTexts])))
  | onAggregate function argument label ih =>
    exact .call (.bare (h function (by simp [rawTexts])))
      (ih fun t ht => h t (by simp [rawTexts, ht]))
  | arithmetic left op right label ihLeft ihRight =>
    have hleft := ihLeft fun t ht => h t (by simp [rawTexts, ht])
    have hright := ihRight fun t ht => h t (by simp [rawTexts, ht])
    have hop : Bare (" " ++ op.token ++ " ") := by
      cases op <;> decide
    have hall := ((hleft.append (.bare hop)).append hright).parens
    simpa [expression, String.append_assoc] using hall

end Aggregate

namespace Projection

lemma woven_sql {p : Projection} (h : ∀ t ∈ p.rawTexts, Bare t) : Woven Given p.sql := by
  cases p with
  | all => exact .bare (by decide)
  | column name => exact .bare (h name (by simp [rawTexts]))
  | aggregate a fallback =>
    have hexpression : Woven Given a.expression :=
      Aggregate.woven_expression fun t ht => h t (by simp [rawTexts, ht])
    rw [sql, Aggregate.sql]
    split
    · rename_i label hlabel
      have hlabel' : Bare label := h label (mem_rawTexts_of_label_or hlabel)
      exact (hexpression.append (.bare (by decide))).append (.bare hlabel')
    · exact hexpression

lemma woven_list {items : List Projection} (h : ∀ t ∈ items.flatMap rawTexts, Bare t) :
    Woven Given (list items) := by
  unfold list
  split
  · exact .bare (by decide)
  · exact .intercalate_map (by decide) fun p hp =>
      woven_sql fun t ht => h t (List.mem_flatMap.2 ⟨p, hp, ht⟩)

end Projection

lemma Page.woven_clause (p : Page) : Woven Given p.clause := by
  have hnumber : ∀ n : UInt64, Woven Given (toString n.toNat) := fun n =>
    .bare (bare_of_numeric (numeric_nat n.toNat))
  refine .intercalate (by decide) fun t ht => ?_
  simp only [List.mem_append, Option.mem_toList, Option.map_eq_some_iff] at ht
  obtain ⟨n, -, rfl⟩ | ⟨n, -, rfl⟩ := ht <;> exact .append (.bare (by decide)) (hnumber n)

lemma RowOrder.woven_clause {order : List (String × Direction)}
    (h : ∀ t ∈ order.map Prod.fst, Bare t) : Woven Given (RowOrder.clause order) := by
  unfold RowOrder.clause
  split
  · exact .bare (by decide)
  · refine .append (.bare (by decide)) (.intercalate_map (by decide) fun p hp => ?_)
    have hpath : Bare p.1 := h p.1 (List.mem_map_of_mem hp)
    have hdirection : Bare p.2.token := by
      cases p.2 <;> decide
    exact ((Woven.bare hpath).append (.bare (by decide))).append (.bare hdirection)

lemma Grouping.woven_fieldsClause {g : Grouping} (h : ∀ t ∈ g.fields, Bare t) :
    Woven Given g.fieldsClause := by
  unfold fieldsClause
  split
  · exact .bare (by decide)
  · exact .append (.bare (by decide)) (.intercalate (by decide) fun t ht => .bare (h t ht))

namespace Statement

/-- The comparisons in the conditions of a statement and in those on its groups. -/
def leaves (s : Statement) : List Comparison :=
  (s.conditions ++ s.groupConditions).flatMap Condition.leaves

/-- Literals are escaped, every name is a bare text, and the sub-queries are given. -/
structure Spliced (Given : String → Prop) (s : Statement) : Prop where
  escapes : s.settings.escapeStrings = true
  table : Bare s.table.name
  names : ∀ t ∈ s.names, Bare t
  leaves : ∀ leaf ∈ s.leaves, leaf.Spliced Given

variable {s : Statement}

lemma woven_projection (h : s.Spliced Given) : Woven Given (Projection.list s.projection) :=
  Projection.woven_list fun t ht => h.names t (by simp [names, ht])

lemma woven_clauses (h : s.Spliced Given) : ∀ clause ∈ s.clauses, Woven Given clause := by
  intro clause hclause
  have hwhere : Woven Given s.whereClause := by
    rw [whereClause, h.escapes]
    exact Condition.woven_clause (by decide) fun leaf hleaf => h.leaves leaf (by simp_all [leaves])
  have hfields : Woven Given (s.grouping.getD {}).fieldsClause :=
    Grouping.woven_fieldsClause fun t ht => h.names t (by simp [names, ht])
  have hhaving : Woven Given ((s.grouping.getD {}).havingClause s.settings.escapeStrings) := by
    rw [h.escapes]
    exact Condition.woven_clause (by decide) fun leaf hleaf =>
      h.leaves leaf (by simp_all [leaves, groupConditions])
  have horder : Woven Given (RowOrder.clause s.ordering) :=
    RowOrder.woven_clause fun t ht => h.names t (by simp_all [names])
  have hpage : Woven Given s.page.clause := s.page.woven_clause
  rcases List.mem_append.1 hclause with hfinal | hclause
  · split at hfinal
    · obtain rfl := List.mem_singleton.1 hfinal
      exact .bare (by decide)
    · contradiction
  · have hmem := (List.mem_filter.1 hclause).1
    simp only [List.mem_cons, List.not_mem_nil, or_false] at hmem
    rcases hmem with rfl | rfl | rfl | rfl | rfl
    exacts [hwhere, hfields, hhaving, horder, hpage]

theorem woven_sql (h : s.Spliced Given) : Woven Given s.sql := by
  rw [sql]
  refine .intercalate (by decide) fun part hpart => ?_
  rcases List.mem_cons.1 hpart with rfl | hclause
  · have hprojection : Woven Given (Projection.list s.projection) := woven_projection h
    exact (((Woven.bare (by decide)).append hprojection).append (.bare (by decide))).append
      (.bare h.table)
  · exact woven_clauses h part hclause

end Statement

end SqlCompose
