import SqlCompose.Proofs.ConditionShape

/-!
# How conditions are woven

Every text of a condition is woven of a few things: texts without quotes and brackets, literals, and
texts in parentheses or brackets of their own. Sub-queries are taken over as they were given. What
each of these ways of weaving keeps therefore holds of every condition.
-/

namespace SqlCompose

namespace Text

/-- A quote or a bracket. -/
def isMark (c : Char) : Bool :=
  ['\'', '(', ')', '[', ']'].contains c

/-- A text without quotes and brackets. -/
def Bare (s : String) : Prop :=
  ∀ c ∈ s.toList, isMark c = false

instance (s : String) : Decidable (Bare s) :=
  decidable_of_iff (s.toList.any isMark = false) (by simp [Bare])

/-- A text that is put together from bare texts, literals and given texts, in brackets or not. -/
inductive Woven (Given : String → Prop) : String → Prop where
  | bare {t : String} (h : Bare t) : Woven Given t
  | given {t : String} (h : Given t) : Woven Given t
  | literal (s : String) : Woven Given (quoted true s)
  | append {t u : String} (ht : Woven Given t) (hu : Woven Given u) : Woven Given (t ++ u)
  | parens {t : String} (h : Woven Given t) : Woven Given ("(" ++ t ++ ")")
  | brackets {t : String} (h : Woven Given t) : Woven Given ("[" ++ t ++ "]")

lemma bare_of_numeric {s : String} (h : Numeric s) : Bare s := by
  intro c hc
  rw [Bool.eq_false_iff]
  intro hmark
  simp only [isMark, List.contains_iff_mem, List.mem_cons, List.not_mem_nil, or_false] at hmark
  rcases hmark with rfl | rfl | rfl | rfl | rfl <;> exact h.not_mem rfl hc

lemma Bare.append {s t : String} (hs : Bare s) (ht : Bare t) : Bare (s ++ t) := by
  intro c hc
  rw [String.toList_append, List.mem_append] at hc
  exact hc.elim (hs c) (ht c)

lemma Bare.not_mem {s : String} (hs : Bare s) {c : Char} (hc : isMark c = true) :
    c ∉ s.toList := by
  intro hmem
  rw [hs c hmem] at hc
  contradiction

namespace Woven

variable {Given : String → Prop} {t u : String}

lemma quoted_plain {s : String} (hslash : '\\' ∉ s.toList) (hquote : '\'' ∉ s.toList) :
    Woven Given (quoted false s) := by
  rw [quoted_of_plain hslash hquote]
  exact literal s

/-- A call of a function. -/
lemma call (ht : Woven Given t) (hu : Woven Given u) : Woven Given (t ++ "(" ++ u ++ ")") := by
  have h := ht.append hu.parens
  rwa [← String.append_assoc, ← String.append_assoc] at h

lemma intercalate {sep : String} (hsep : Bare sep) {ts : List String}
    (h : ∀ t ∈ ts, Woven Given t) : Woven Given (sep.intercalate ts) := by
  induction ts with
  | nil => exact bare (show Bare "" by decide)
  | cons t ts ih =>
    have ht := h t (by simp)
    cases ts with
    | nil => simpa using ht
    | cons u us =>
      rw [String.intercalate_cons_cons]
      exact (ht.append (bare hsep)).append (ih fun v hv => h v (List.mem_cons_of_mem t hv))

lemma intercalate_map {α : Type} {sep : String} (hsep : Bare sep) {items : List α}
    {f : α → String} (h : ∀ a ∈ items, Woven Given (f a)) :
    Woven Given (sep.intercalate (items.map f)) := by
  refine intercalate hsep fun t ht => ?_
  obtain ⟨a, ha, rfl⟩ := List.mem_map.1 ht
  exact h a ha

end Woven

end Text

open Text

variable {Given : String → Prop}

namespace Value

lemma bare_boolText (b : Bool) : Bare (boolText b) := by
  cases b <;> decide

lemma bare_write (x : Float) : Bare (floatStyle.write x) := by
  obtain h | h := numeric_or_word_of_float x
  · exact bare_of_numeric h
  · have hwords : ∀ w ∈ ["nan", "inf", "-inf"], Bare w := by decide
    exact hwords _ h

theorem woven_element {v : Value} (h : ∀ t ∈ v.rawTexts, Given t) :
    Woven Given (v.element true) := by
  induction v using induct with
  | null => exact .bare (by decide)
  | bool b => exact .bare (bare_boolText b)
  | int n => exact .bare (bare_of_numeric (numeric_int n.toInt))
  | uint n => exact .bare (bare_of_numeric (numeric_nat n.toNat))
  | float x => exact .bare (bare_write x)
  | text s => exact .literal s
  | date d =>
    exact .quoted_plain (d.numeric_text.not_mem rfl) (d.numeric_text.not_mem rfl)
  | moment t => exact .quoted_plain t.backslash_not_mem_text t.quote_not_mem_text
  | uuid u => exact .quoted_plain u.backslash_not_mem_text u.quote_not_mem_text
  | array items ih =>
    rw [rawTexts_array] at h
    rw [element_array]
    refine .brackets (.intercalate_map (by decide) fun v hv => ih v hv fun t ht => ?_)
    exact h t (List.mem_flatMap.2 ⟨v, hv, ht⟩)
  | subquery sql => exact .parens (.given (h sql (by simp [rawTexts])))

lemma woven_joined {items : List Value} (h : ∀ t ∈ (array items).rawTexts, Given t) :
    Woven Given (joined true items) := by
  rw [rawTexts_array] at h
  rw [joined_eq]
  refine .intercalate_map (by decide) fun v hv => woven_element fun t ht => ?_
  exact h t (List.mem_flatMap.2 ⟨v, hv, ht⟩)

lemma woven_literal {v : Value} (h : ∀ t ∈ v.rawTexts, Given t) :
    Woven Given (v.literal true) := by
  cases v with
  | array items => exact .parens (woven_joined h)
  | _ => exact woven_element h

lemma woven_arrayLiteral {v : Value} (h : ∀ t ∈ v.rawTexts, Given t) :
    Woven Given (v.arrayLiteral true) := by
  cases v with
  | array items => exact .brackets (woven_joined h)
  | _ => exact .brackets (woven_element h)

lemma woven_candidates {v : Value} (h : ∀ t ∈ v.rawTexts, Given t) :
    Woven Given (v.candidates true) := by
  cases v with
  | array items =>
    cases items with
    | nil => exact .bare (by decide)
    | cons v rest => exact woven_joined h
  | subquery sql => exact .given (h sql (by simp [rawTexts]))
  | _ => exact woven_element h

lemma woven_arrayArgument {v : Value} (h : ∀ t ∈ v.rawTexts, Given t) :
    Woven Given (v.arrayArgument true) := by
  cases v with
  | subquery sql => exact .parens (.given (h sql (by simp [rawTexts])))
  | _ => exact woven_arrayLiteral h

end Value

/-- The column is a bare text, and the sub-queries in the operand are given. -/
structure Comparison.Spliced (Given : String → Prop) (c : Comparison) : Prop where
  path : Bare c.path
  given : ∀ t ∈ c.value.rawTexts, Given t

theorem Comparison.woven_sql {c : Comparison} (h : c.Spliced Given) :
    Woven Given (c.sql true) := by
  have hpath : Woven Given c.path := .bare h.path
  by_cases hnull : c.value.isNull = true
  · rw [sql_of_isNull hnull]
    exact hpath.append (.bare (by decide))
  rw [Bool.not_eq_true] at hnull
  by_cases hop : c.operator.isMembership = false
  · rw [sql_of_not_isMembership hnull hop]
    have htoken : Bare (" " ++ c.operator.token ++ " ") := by
      cases c.operator <;> decide
    have h := (hpath.append (.bare htoken)).append (Value.woven_literal h.given)
    simpa [String.append_assoc] using h
  · obtain hop | hop := Operator.eq_isIn_or_eq_hasAny hop
    · rw [sql_of_isIn hnull hop]
      have hopen : " IN (" = " IN " ++ "(" := by decide
      rw [hopen, ← String.append_assoc]
      exact (hpath.append (.bare (by decide))).call (Value.woven_candidates h.given)
    · rw [sql_of_hasAny hnull hop]
      have hname : Woven Given "hasAny" := .bare (by decide)
      have hopen : "hasAny(" = "hasAny" ++ "(" := by decide
      have hcall := hname.call ((hpath.append (.bare (by decide : Bare ", "))).append
        (Value.woven_arrayArgument h.given))
      simpa only [hopen, String.append_assoc] using hcall

namespace Condition

lemma woven_statementSql {c : Condition} (h : Woven Given (c.sql true)) :
    Woven Given (c.statementSql true) := by
  rw [statementSql_eq]
  split
  · exact h
  · exact .parens h

lemma woven_body (joiner : Joiner) {members : List Condition}
    (h : ∀ m ∈ members, Woven Given (m.sql true)) : Woven Given (body true joiner members) := by
  rcases members with _ | ⟨first, _ | ⟨second, rest⟩⟩
  · rw [body_nil]
    exact .bare (by split <;> decide)
  · rw [body_singleton]
    exact woven_statementSql (h first (by simp))
  · have hsep : Bare (" " ++ joiner.token ++ " ") := by
      cases joiner <;> decide
    rw [body_of_two_le true joiner (by simp)]
    exact .parens (.intercalate_map hsep h)

theorem woven_sql {c : Condition} (h : ∀ leaf ∈ c.leaves, leaf.Spliced Given) :
    Woven Given (c.sql true) := by
  induction c using induct with
  | leaf c =>
    rw [sql_leaf]
    exact Comparison.woven_sql (h c (by simp))
  | group joiner negated members ih =>
    rw [leaves_group] at h
    rw [sql_group]
    have hbody := woven_body joiner fun m hm =>
      ih m hm fun leaf hleaf => h leaf (List.mem_flatMap.2 ⟨m, hm, hleaf⟩)
    split
    · have hnot : "(NOT " = "(" ++ "NOT " := by decide
      have hword : Woven Given "NOT " := .bare (by decide)
      simpa only [hnot, String.append_assoc] using (hword.append hbody).parens
    · exact hbody

lemma woven_clause {keyword : String} (hkeyword : Bare keyword) {cs : List Condition}
    (h : ∀ leaf ∈ cs.flatMap leaves, leaf.Spliced Given) :
    Woven Given (clause keyword true cs) := by
  have hfront : Bare (keyword ++ " ") := hkeyword.append (by decide)
  have hmember : ∀ c ∈ cs, Woven Given (c.statementSql true) := fun c hc =>
    woven_statementSql (woven_sql fun leaf hleaf => h leaf (List.mem_flatMap.2 ⟨c, hc, hleaf⟩))
  rcases cs with _ | ⟨first, _ | ⟨second, rest⟩⟩
  · exact .bare (show Bare "" by decide)
  · exact .append (.bare hfront) (hmember first (by simp))
  · rw [clause, conjunction?_of_two_le true (by simp)]
    exact .append (.bare hfront) (.parens (.intercalate_map (by decide) hmember))

end Condition

end SqlCompose
