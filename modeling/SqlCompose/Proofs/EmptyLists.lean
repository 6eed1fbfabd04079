import SqlCompose.Proofs.ColumnPaths
import SqlCompose.Proofs.Woven

/-!
# Empty lists in conditions

No text of a condition has `()` outside of its literals but for one reason: a comparison whose
operator takes its operand as it is has an empty list for it. A membership test writes `(NULL)`, a
test for common members `[]`, and a search makes a text of the list. When rows are excluded every
operator is replaced by one that takes its operand as it is.
-/

namespace SqlCompose

namespace Text

/-- An opening and a closing parenthesis with nothing between them. -/
def emptyParens : List Piece :=
  [.outside '(', .outside ')']

/-- The text ends outside of literals, and outside of them it has `()` exactly when `b` holds. -/
def EmptyParensIff (t : String) (b : Prop) : Prop :=
  ∃ ps, pieces? t = some ps ∧ (emptyParens <:+: ps ↔ b)

/-- There is something at both ends that gives no `()` with what stands next to it. -/
structure Firm (ps : List Piece) : Prop where
  ne_nil : ps ≠ []
  head : ps.head? ≠ some (.outside ')')
  last : ps.getLast? ≠ some (.outside '(')

/-- A text with firm ends that has `()` exactly when `b` holds. -/
def FirmIff (t : String) (b : Prop) : Prop :=
  ∃ ps, pieces? t = some ps ∧ Firm ps ∧ (emptyParens <:+: ps ↔ b)

/-- Where two texts meet, `()` arises only from an opening parenthesis in front of a closing one. -/
lemma emptyParens_infix_append_iff {ps qs : List Piece}
    (h : ps.getLast? = some (.outside '(') → qs.head? ≠ some (.outside ')')) :
    emptyParens <:+: ps ++ qs ↔ emptyParens <:+: ps ∨ emptyParens <:+: qs := by
  have hseam : ¬ ∃ front back, front ≠ [] ∧ back ≠ [] ∧ emptyParens = front ++ back ∧
      front <:+ ps ∧ back <+: qs := by
    rintro ⟨front, back, hfront, hback, hsplit, hps, hqs⟩
    obtain ⟨rfl, rfl⟩ : front = [.outside '('] ∧ back = [.outside ')'] := by
      rcases front with _ | ⟨p, _ | ⟨q, front⟩⟩
      · contradiction
      · simpa [emptyParens, eq_comm] using hsplit
      · obtain rfl : back = [] := by simp_all [emptyParens]
        contradiction
    rw [List.singleton_suffix_iff_getLast?_eq_some] at hps
    rw [List.singleton_prefix_iff_head?_eq_some] at hqs
    exact h hps hqs
  rw [List.infix_append_iff_ne_nil, or_iff_left hseam]

lemma Firm.append {ps qs : List Piece} (hps : Firm ps) (hqs : Firm qs) : Firm (ps ++ qs) where
  ne_nil := List.append_ne_nil_of_left_ne_nil hps.ne_nil qs
  head := by
    rw [List.head?_append_of_ne_nil ps hps.ne_nil]
    exact hps.head
  last := by
    rw [List.getLast?_append_of_ne_nil ps hqs.ne_nil]
    exact hqs.last

lemma Firm.wrap {p q : Piece} (hp : p ≠ .outside ')') (hq : q ≠ .outside '(') (ps : List Piece) :
    Firm ([p] ++ ps ++ [q]) where
  ne_nil := by simp
  head := by simpa using hp
  last := by
    rw [List.getLast?_concat]
    simpa using hq

/-- A bracket gives no `()` with what stands in it, but a parenthesis needs firm ends there. -/
lemma emptyParens_infix_wrap_iff {p q : Piece} {ps : List Piece}
    (h : p = .outside '(' ∨ q = .outside ')' → Firm ps) :
    emptyParens <:+: [p] ++ ps ++ [q] ↔ emptyParens <:+: ps := by
  have hsingle : ∀ r, ¬ emptyParens <:+: [r] := fun r hr =>
    absurd hr.length_le (by simp [emptyParens])
  have hfront : [p].getLast? = some (.outside '(') → ps.head? ≠ some (.outside ')') :=
    fun hp => (h (.inl (by simpa using hp))).head
  have hback : ([p] ++ ps).getLast? = some (.outside '(') → [q].head? ≠ some (.outside ')') := by
    intro hlast hq
    have hfirm := h (.inr (by simpa using hq))
    rw [List.getLast?_append_of_ne_nil _ hfirm.ne_nil] at hlast
    exact hfirm.last hlast
  rw [emptyParens_infix_append_iff hback, emptyParens_infix_append_iff hfront,
    or_iff_right (hsingle p), or_iff_left (hsingle q)]

namespace FirmIff

variable {t u : String} {b c : Prop}

lemma congr (ht : FirmIff t b) (h : b ↔ c) : FirmIff t c := by
  rwa [← propext h]

lemma emptyParensIff (ht : FirmIff t b) : EmptyParensIff t b := by
  obtain ⟨ps, hps, -, hiff⟩ := ht
  exact ⟨ps, hps, hiff⟩

lemma bare (h : Bare t) (hne : t ≠ "") : FirmIff t False := by
  have hoff : ∀ c, isMark c = true → Piece.outside c ∉ t.toList.map Piece.outside := by
    intro c hc hmem
    obtain ⟨d, hd, hcd⟩ := List.mem_map.1 hmem
    obtain rfl := Piece.outside.inj hcd
    exact h.not_mem hc hd
  refine ⟨_, pieces?_of_plain (h.not_mem rfl), ⟨?_, ?_, ?_⟩, iff_false_intro ?_⟩
  · simpa using hne
  · exact fun hhead => hoff ')' rfl (List.mem_of_head? hhead)
  · exact fun hlast => hoff '(' rfl (List.mem_of_getLast? hlast)
  · exact fun hpart => hoff '(' rfl (hpart.mem (by simp [emptyParens]))

lemma quoted (s : String) : FirmIff (quoted true s) False := by
  refine ⟨_, pieces?_quoted s, ⟨by simp, by simp, by simp⟩, iff_false_intro fun hpart => ?_⟩
  have hmem := hpart.mem (a := .outside '(') (by simp [emptyParens])
  simp at hmem

lemma quoted_plain {s : String} (hslash : '\\' ∉ s.toList) (hquote : '\'' ∉ s.toList) :
    FirmIff (Text.quoted false s) False := by
  rw [quoted_of_plain hslash hquote]
  exact quoted s

lemma append (ht : FirmIff t b) (hu : FirmIff u c) : FirmIff (t ++ u) (b ∨ c) := by
  obtain ⟨ps, hps, hfirm, hiff⟩ := ht
  obtain ⟨qs, hqs, hfirm', hiff'⟩ := hu
  refine ⟨ps ++ qs, pieces?_append hps hqs, hfirm.append hfirm', ?_⟩
  rw [emptyParens_infix_append_iff fun hlast => absurd hlast hfirm.last, hiff, hiff']

/-- A text without `()` in front. -/
lemma front (ht : FirmIff t False) (hu : FirmIff u b) : FirmIff (t ++ u) b :=
  (ht.append hu).congr (by rw [false_or])

lemma parens (ht : FirmIff t b) : FirmIff ("(" ++ t ++ ")") b := by
  obtain ⟨ps, hps, hfirm, hiff⟩ := ht
  have hopen : pieces? "(" = some [.outside '('] := rfl
  have hclose : pieces? ")" = some [.outside ')'] := rfl
  refine ⟨_, pieces?_append (pieces?_append hopen hps) hclose, .wrap (by simp) (by simp) ps, ?_⟩
  rw [emptyParens_infix_wrap_iff fun _ => hfirm, hiff]

lemma intercalate {α : Type} {sep : String} (hsep : Bare sep) (hne : sep ≠ "")
    {items : List α} {f : α → String} {b : α → Prop} (hitems : items ≠ [])
    (h : ∀ a ∈ items, FirmIff (f a) (b a)) :
    FirmIff (sep.intercalate (items.map f)) (∃ a ∈ items, b a) := by
  induction items with
  | nil => contradiction
  | cons a items ih =>
    have ha := h a (by simp)
    cases items with
    | nil => simpa using ha
    | cons second items =>
      have hrest := ih (by simp) fun x hx => h x (List.mem_cons_of_mem a hx)
      rw [List.map_cons, List.map_cons, String.intercalate_cons_cons, String.append_assoc,
        ← List.map_cons]
      refine (ha.append ((bare hsep hne).front hrest)).congr ?_
      rw [List.exists_mem_cons_iff (l := second :: items)]

end FirmIff

namespace EmptyParensIff

variable {t : String} {b c : Prop}

lemma congr (ht : EmptyParensIff t b) (h : b ↔ c) : EmptyParensIff t c := by
  rwa [← propext h]

lemma empty : EmptyParensIff "" False :=
  ⟨[], rfl, by simp [emptyParens]⟩

lemma brackets (ht : EmptyParensIff t b) : FirmIff ("[" ++ t ++ "]") b := by
  obtain ⟨ps, hps, hiff⟩ := ht
  have hopen : pieces? "[" = some [.outside '['] := rfl
  have hclose : pieces? "]" = some [.outside ']'] := rfl
  refine ⟨_, pieces?_append (pieces?_append hopen hps) hclose, .wrap (by simp) (by simp) ps, ?_⟩
  rw [emptyParens_infix_wrap_iff (by simp), hiff]

end EmptyParensIff

end Text

open Text

namespace Value

lemma firm_joined_of_elements {items : List Value} (hitems : items ≠ [])
    (h : ∀ v ∈ items, FirmIff (v.element true) False) : FirmIff (joined true items) False := by
  have hsep : Bare ", " := by decide
  rw [joined_eq]
  exact (FirmIff.intercalate hsep (by decide) hitems h).congr (by simp)

lemma firm_element {v : Value} (h : v.rawTexts = []) : FirmIff (v.element true) False := by
  induction v using induct with
  | null => exact .bare (by decide) (by decide)
  | bool b => exact .bare (bare_boolText b) (by cases b <;> decide)
  | int n =>
    exact .bare (bare_of_numeric (numeric_int n.toInt))
      (mt String.toList_eq_nil_iff.2 (int_ne_nil n.toInt))
  | uint n =>
    exact .bare (bare_of_numeric (numeric_nat n.toNat))
      (mt String.toList_eq_nil_iff.2 (nat_ne_nil n.toNat))
  | float x => exact .bare (bare_write x) (mt String.toList_eq_nil_iff.2 (float_ne_nil x))
  | text s => exact .quoted s
  | date d =>
    exact .quoted_plain (d.numeric_text.not_mem rfl) (d.numeric_text.not_mem rfl)
  | moment t => exact .quoted_plain t.backslash_not_mem_text t.quote_not_mem_text
  | uuid u => exact .quoted_plain u.backslash_not_mem_text u.quote_not_mem_text
  | array items ih =>
    rw [rawTexts_array, List.flatMap_eq_nil_iff] at h
    rw [element_array, ← joined_eq]
    by_cases hitems : items = []
    · subst hitems
      exact EmptyParensIff.empty.brackets
    · have hinside := firm_joined_of_elements hitems fun v hv => ih v hv (h v hv)
      exact hinside.emptyParensIff.brackets
  | subquery sql => simp [rawTexts] at h

lemma firm_joined {items : List Value} (hitems : items ≠ []) (h : (array items).rawTexts = []) :
    FirmIff (joined true items) False := by
  rw [rawTexts_array, List.flatMap_eq_nil_iff] at h
  exact firm_joined_of_elements hitems fun v hv => firm_element (h v hv)

lemma firm_literal {v : Value} (h : v.rawTexts = []) :
    FirmIff (v.literal true) (v = .array []) := by
  cases v with
  | array items =>
    cases items with
    | nil =>
      -- These are the only parentheses in which nothing is left.
      refine ⟨emptyParens, rfl, .wrap (by simp) (by simp) [], ?_⟩
      simp
    | cons v rest => exact (firm_joined (by simp) h).parens.congr (by simp)
  | _ => exact (firm_element h).congr (by simp)

lemma firm_candidates {v : Value} (h : v.rawTexts = []) : FirmIff (v.candidates true) False := by
  cases v with
  | array items =>
    cases items with
    | nil => exact .bare (by decide) (by decide)
    | cons v rest => exact firm_joined (by simp) h
  | subquery sql => simp [rawTexts] at h
  | _ => exact firm_element h

lemma firm_arrayArgument {v : Value} (h : v.rawTexts = []) :
    FirmIff (v.arrayArgument true) False := by
  cases v with
  | array items =>
    have helement := firm_element h
    rwa [element_array, ← joined_eq] at helement
  | subquery sql => simp [rawTexts] at h
  | _ => exact (firm_element h).emptyParensIff.brackets

end Value

namespace Comparison

/-- The operator takes its operand as it is, and that is an empty list. -/
def WritesEmptyParens (c : Comparison) : Prop :=
  c.value = .array [] ∧ c.operator.isMembership = false

/-- The column is a bare text, and the operand has no sub-queries in it. -/
def Plain (c : Comparison) : Prop :=
  Bare c.path ∧ c.value.rawTexts = []

lemma firm_sql {c : Comparison} (h : c.Plain) : FirmIff (c.sql true) c.WritesEmptyParens := by
  obtain ⟨hpath, hplain⟩ := h
  have hfront : ∀ t, Bare t → t ≠ "" → FirmIff (c.path ++ t) False := fun t ht hne =>
    .bare (hpath.append ht) (by simp [hne])
  by_cases hnull : c.value.isNull = true
  · rw [sql_of_isNull hnull]
    refine (hfront " IS NULL" (by decide) (by decide)).congr (iff_of_false id ?_)
    rintro ⟨hvalue, -⟩
    simp [hvalue, Value.isNull] at hnull
  rw [Bool.not_eq_true] at hnull
  by_cases hop : c.operator.isMembership = false
  · rw [sql_of_not_isMembership hnull hop]
    have htoken := hfront (" " ++ c.operator.token ++ " ") (by cases c.operator <;> decide)
      (by cases c.operator <;> decide)
    have hall := htoken.front (Value.firm_literal hplain)
    simp only [← String.append_assoc] at hall
    exact hall.congr (by rw [WritesEmptyParens, and_iff_left hop])
  · have hnone : False ↔ c.WritesEmptyParens := iff_of_false id fun hw => hop hw.2
    refine FirmIff.congr ?_ hnone
    obtain hop | hop := Operator.eq_isIn_or_eq_hasAny hop
    · rw [sql_of_isIn hnull hop]
      have hall := (hfront " IN " (by decide) (by decide)).front
        (Value.firm_candidates hplain).parens
      have hopen : " IN (" = " IN " ++ "(" := by decide
      simpa only [hopen, String.append_assoc] using hall
    · rw [sql_of_hasAny hnull hop]
      have hname : FirmIff "hasAny" False := .bare (by decide) (by decide)
      have hall := hname.front ((hfront ", " (by decide) (by decide)).front
        (Value.firm_arrayArgument hplain)).parens
      have hopen : "hasAny(" = "hasAny" ++ "(" := by decide
      simpa only [hopen, String.append_assoc] using hall

end Comparison

namespace Condition

lemma exists_mem_flatMap_leaves_iff (P : Comparison → Prop) (cs : List Condition) :
    (∃ leaf ∈ cs.flatMap leaves, P leaf) ↔ ∃ c ∈ cs, ∃ leaf ∈ c.leaves, P leaf := by
  constructor
  · rintro ⟨leaf, hleaf, hP⟩
    obtain ⟨c, hc, hleaf⟩ := List.mem_flatMap.1 hleaf
    exact ⟨c, hc, leaf, hleaf, hP⟩
  · rintro ⟨c, hc, leaf, hleaf, hP⟩
    exact ⟨leaf, List.mem_flatMap.2 ⟨c, hc, hleaf⟩, hP⟩

lemma firm_statementSql {c : Condition} {b : Prop} (h : FirmIff (c.sql true) b) :
    FirmIff (c.statementSql true) b := by
  rw [statementSql_eq]
  split
  · exact h
  · exact h.parens

lemma firm_body (joiner : Joiner) {members : List Condition} {b : Condition → Prop}
    (h : ∀ m ∈ members, FirmIff (m.sql true) (b m)) :
    FirmIff (body true joiner members) (∃ m ∈ members, b m) := by
  rcases members with _ | ⟨first, _ | ⟨second, rest⟩⟩
  · have hconstant : FirmIff (body true joiner []) False := by
      rw [body_nil]
      split <;> exact .bare (by decide) (by decide)
    exact hconstant.congr (by simp)
  · rw [body_singleton]
    exact (firm_statementSql (h first (by simp))).congr (by simp)
  · rw [body_of_two_le true joiner (by simp)]
    exact (FirmIff.intercalate (by cases joiner <;> decide) (by cases joiner <;> decide) (by simp)
      h).parens

/-- The text of a condition has `()` exactly when one of its comparisons writes it. -/
theorem firm_sql {c : Condition} (h : ∀ leaf ∈ c.leaves, leaf.Plain) :
    FirmIff (c.sql true) (∃ leaf ∈ c.leaves, leaf.WritesEmptyParens) := by
  induction c using induct with
  | leaf c =>
    rw [sql_leaf]
    exact (Comparison.firm_sql (h c (by simp))).congr (by simp)
  | group joiner negated members ih =>
    rw [leaves_group] at h ⊢
    rw [sql_group]
    have hbody := firm_body joiner fun m hm =>
      ih m hm fun leaf hleaf => h leaf (List.mem_flatMap.2 ⟨m, hm, hleaf⟩)
    rw [exists_mem_flatMap_leaves_iff]
    split
    · have hnot : "(NOT " = "(" ++ "NOT " := by decide
      have hword : FirmIff "NOT " False := .bare (by decide) (by decide)
      simpa only [hnot, String.append_assoc] using (hword.front hbody).parens
    · exact hbody

lemma emptyParensIff_clause {keyword : String} (hkeyword : Bare keyword) {cs : List Condition}
    (h : ∀ leaf ∈ cs.flatMap leaves, leaf.Plain) :
    EmptyParensIff (clause keyword true cs)
      (∃ leaf ∈ cs.flatMap leaves, leaf.WritesEmptyParens) := by
  have hfront : FirmIff (keyword ++ " ") False :=
    .bare (hkeyword.append (by decide)) (by simp)
  have hmember : ∀ c ∈ cs,
      FirmIff (c.statementSql true) (∃ leaf ∈ c.leaves, leaf.WritesEmptyParens) := fun c hc =>
    firm_statementSql (firm_sql fun leaf hleaf => h leaf (List.mem_flatMap.2 ⟨c, hc, hleaf⟩))
  rw [exists_mem_flatMap_leaves_iff]
  rcases cs with _ | ⟨first, _ | ⟨second, rest⟩⟩
  · exact EmptyParensIff.empty.congr (by simp)
  · exact ((hfront.front (hmember first (by simp))).congr (by simp)).emptyParensIff
  · rw [clause, conjunction?_of_two_le true (by simp)]
    exact (hfront.front (FirmIff.intercalate (by decide) (by decide) (by simp)
      hmember).parens).emptyParensIff

end Condition

/-- The operators that take their operand as it is, neither as a pattern nor as a list. -/
def Operator.keepsOperand (op : Operator) : Bool :=
  op ≠ .like && !op.isMembership

/-- How a comparison with an empty list is written. -/
def Operator.onEmptyList (path : String) : Operator → String
  | isIn => path ++ " IN (NULL)"
  | hasAny => "hasAny(" ++ path ++ ", [])"
  | like => path ++ " LIKE '%%'"
  | op => path ++ " " ++ op.token ++ " ()"

namespace Comparison

lemma writesEmptyParens_prepared_iff (path : String) (op : Operator) (v : Value) :
    (prepared path op v).WritesEmptyParens ↔ v = .array [] ∧ op.keepsOperand = true := by
  cases op with
  | like => cases v <;> simp [prepared, WritesEmptyParens, Value.likePattern, Operator.keepsOperand]
  | isIn => simp [prepared, WritesEmptyParens, Operator.isMembership, Operator.keepsOperand]
  | hasAny => simp [prepared, WritesEmptyParens, Operator.isMembership, Operator.keepsOperand]
  | _ => simp [prepared, WritesEmptyParens, Operator.isMembership, Operator.keepsOperand]

lemma rawTexts_prepared (path : String) (op : Operator) {v : Value} (h : v.rawTexts = []) :
    (prepared path op v).value.rawTexts = [] := by
  rw [prepared]
  split
  · cases v <;> simp [Value.likePattern, Value.rawTexts]
  · split
    · cases v <;> simp_all [Value.asList, Value.rawTexts, Value.rawTextsOfList]
    · exact h

lemma sql_prepared_empty_list (path : String) (op : Operator) :
    (prepared path op (.array [])).sql true = op.onEmptyList path := by
  cases op with
  | isIn => rfl
  | hasAny =>
    have hrest : ", [])" = ", " ++ ((Value.array []).arrayArgument true ++ ")") := by decide
    rw [sql_of_hasAny rfl rfl, Operator.onEmptyList, hrest]
    simp only [String.append_assoc]
    rfl
  | like =>
    have hrest : " LIKE '%%'" = " " ++ ("LIKE" ++ (" " ++ Text.quoted true "%%")) := by decide
    rw [sql_of_not_isMembership rfl rfl, Operator.onEmptyList, hrest]
    simp only [String.append_assoc]
    rfl
  | _ =>
    have hrest : " ()" = " " ++ (Value.array []).literal true := by decide
    rw [sql_of_not_isMembership rfl rfl, Operator.onEmptyList, hrest]
    · simp only [String.append_assoc]
      rfl
    all_goals simp

end Comparison

namespace Lookup.Entry

lemma bare_path {e : Entry} (h : ∀ k ∈ e.keys, IsIdentifier k) : Bare (e.path none) := by
  intro c hc
  obtain hc | ⟨name, hname, hc⟩ := mem_intercalate hc
  · obtain rfl : c = '.' := by simpa using hc
    rfl
  · obtain ⟨k, hk, rfl⟩ := List.mem_map.1 hname
    have hcontinues := (h k hk).2 c ((Key.base_isPrefix k).mem hc)
    rw [Bool.eq_false_iff]
    intro hmark
    simp only [isMark, List.contains_iff_mem, List.mem_cons, List.not_mem_nil, or_false] at hmark
    obtain rfl | rfl | rfl | rfl | rfl := hmark <;> exact absurd hcontinues (by decide)

end Lookup.Entry

namespace Lookup

variable {l : Lookup} (forced : Option Operator)

lemma plain_of_mem_flatten (hkeys : ∀ e ∈ l.entries, ∀ k ∈ e.keys, IsIdentifier k)
    (hplain : ∀ e ∈ l.entries, e.operand.rawTexts = []) :
    ∀ c ∈ l.flatten forced none, c.Plain := by
  rw [flatten_eq_map_entries, List.forall_mem_map]
  exact fun e he =>
    ⟨Entry.bare_path (hkeys e he), Comparison.rawTexts_prepared _ _ (hplain e he)⟩

lemma exists_writesEmptyParens_iff :
    (∃ c ∈ l.flatten forced none, c.WritesEmptyParens) ↔
      ∃ e ∈ l.entries, e.operand = .array [] ∧
        (forced.getD (Key.operator e.key)).keepsOperand = true := by
  simp [flatten_eq_map_entries, Entry.comparison, Comparison.writesEmptyParens_prepared_iff]

end Lookup

/-- What a filter object adds to a clause behind the conditions that are there. -/
lemma Condition.emptyParensIff_clause_lookup {keyword : String} (hkeyword : Bare keyword)
    {cs : List Condition} (hcs : ∀ leaf ∈ cs.flatMap leaves, leaf.Plain) {l : Lookup}
    (hkeys : ∀ e ∈ l.entries, ∀ k ∈ e.keys, IsIdentifier k)
    (hplain : ∀ e ∈ l.entries, e.operand.rawTexts = []) (forced : Option Operator) :
    EmptyParensIff (clause keyword true (cs ++ (l.condition? forced).toList))
      ((∃ leaf ∈ cs.flatMap leaves, leaf.WritesEmptyParens) ∨
        ∃ e ∈ l.entries, e.operand = .array [] ∧
          (forced.getD (Key.operator e.key)).keepsOperand = true) := by
  have hleaves : (cs ++ (l.condition? forced).toList).flatMap leaves =
      cs.flatMap leaves ++ l.flatten forced none := by
    rw [List.flatMap_append, Lookup.leaves_condition?]
  have hall : ∀ leaf ∈ (cs ++ (l.condition? forced).toList).flatMap leaves, leaf.Plain := by
    rw [hleaves, List.forall_mem_append]
    exact ⟨hcs, Lookup.plain_of_mem_flatten forced hkeys hplain⟩
  refine (emptyParensIff_clause hkeyword hall).congr ?_
  rw [hleaves, ← Lookup.exists_writesEmptyParens_iff]
  simp only [List.mem_append, or_and_right, exists_or]

namespace Statement

variable {s : Statement} {l : Lookup}

lemma conditions_filter_lookup (s : Statement) (l : Lookup) :
    (s.filter (.lookup l)).conditions = s.conditions ++ (l.condition? none).toList := by
  rw [filter_eq, Filter.conditions]
  cases l.condition? none <;> rfl

/-- A call with a filter object adds `()` to the text of the conditions exactly when an empty list
stands under a key whose operator takes its operand as it is, and where rows are excluded, whenever
the object has an empty list at all. What the strings of the object hold plays no part. -/
theorem emptyParensIff_of_lookup (hescape : s.settings.escapeStrings = true)
    (hbefore : ∀ c ∈ s.allComparisons, c.Plain)
    (hkeys : ∀ e ∈ l.entries, ∀ k ∈ e.keys, IsIdentifier k)
    (hplain : ∀ e ∈ l.entries, e.operand.rawTexts = []) :
    EmptyParensIff (s.filter (.lookup l)).whereClause
        ((∃ c ∈ s.comparisons, c.WritesEmptyParens) ∨
          ∃ e ∈ l.entries, e.operand = .array [] ∧ (Key.operator e.key).keepsOperand = true) ∧
      EmptyParensIff (s.exclude l).whereClause
        ((∃ c ∈ s.comparisons, c.WritesEmptyParens) ∨ ∃ e ∈ l.entries, e.operand = .array []) ∧
      EmptyParensIff (((s.having l).grouping.getD {}).havingClause s.settings.escapeStrings)
        ((∃ c ∈ s.groupConditions.flatMap Condition.leaves, c.WritesEmptyParens) ∨
          ∃ e ∈ l.entries, e.operand = .array [] ∧ (Key.operator e.key).keepsOperand = true) ∧
      ∀ e ∈ l.entries, e.operand = .array [] → ∀ forced,
        (e.comparison forced none).sql true =
          (forced.getD (Key.operator e.key)).onEmptyList (e.path none) := by
  have hrows : ∀ c ∈ s.comparisons, c.Plain := fun c hc => hbefore c (List.mem_append_left _ hc)
  have hgroups : ∀ c ∈ s.groupConditions.flatMap Condition.leaves, c.Plain := fun c hc =>
    hbefore c (List.mem_append_right _ hc)
  have hwhere : Bare "WHERE" := by decide
  have hhaving : Bare "HAVING" := by decide
  have hne : Operator.ne.keepsOperand = true := rfl
  refine ⟨?_, ?_, ?_, ?_⟩
  · rw [whereClause, conditions_filter_lookup, filter_eq, hescape]
    exact Condition.emptyParensIff_clause_lookup hwhere hrows hkeys hplain none
  · rw [whereClause, exclude, hescape]
    have hexclude := Condition.emptyParensIff_clause_lookup hwhere hrows hkeys hplain (some .ne)
    simp only [Option.getD_some, hne, and_true] at hexclude
    exact hexclude
  · rw [Grouping.havingClause, hescape]
    exact Condition.emptyParensIff_clause_lookup hhaving hgroups hkeys hplain none
  · intro e he hlist forced
    rw [Lookup.Entry.comparison, hlist]
    exact Comparison.sql_prepared_empty_list _ _

/-- Empty lists under the suffixes that keep them out of parentheses, behind a condition that is
there: the same object gives `()` only where rows are excluded. -/
theorem emptyParensIff_of_guarded_lists :
    let s : Statement :=
      { table := ⟨"sales", .mergeTree⟩, conditions := [.leaf ⟨"region", .eq, .text "eu ()"⟩] }
    let l : Lookup := .nested "customer" (.value "tags__has_any" (.array []) .empty)
      (.value "status__in" (.array [])
        (.value "note__icontains" (.array []) (.value "parts" (.array [.array []]) .empty)))
    (∀ c ∈ s.allComparisons, c.Plain) ∧
      (∀ e ∈ l.entries, ∀ k ∈ e.keys, IsIdentifier k) ∧
      (∀ e ∈ l.entries, e.operand.rawTexts = []) ∧
      (s.filter (.lookup l)).whereClause = "WHERE ((region = 'eu ()') AND " ++
        "(hasAny(customer.tags, []) AND status IN (NULL) AND note LIKE '%%' AND parts = ([])))" ∧
      EmptyParensIff (s.filter (.lookup l)).whereClause False ∧
      (s.exclude l).whereClause = "WHERE ((region = 'eu ()') AND " ++
        "(customer.tags != () AND status != () AND note != () AND parts != ([])))" ∧
      EmptyParensIff (s.exclude l).whereClause True := by
  intro s l
  have hbefore : ∀ c ∈ s.allComparisons, c.Plain := by
    intro c hc
    obtain rfl : c = ⟨"region", .eq, .text "eu ()"⟩ := List.mem_singleton.1 hc
    exact ⟨by decide, rfl⟩
  have hkeys : ∀ e ∈ l.entries, ∀ k ∈ e.keys, IsIdentifier k := by decide
  have hplain : ∀ e ∈ l.entries, e.operand.rawTexts = [] := by decide
  have hnone : ¬ ∃ c ∈ s.comparisons, c.WritesEmptyParens := by
    rintro ⟨c, hc, hvalue, -⟩
    obtain rfl : c = ⟨"region", .eq, .text "eu ()"⟩ := List.mem_singleton.1 hc
    contradiction
  have hentries : l.entries = [⟨["customer"], "tags__has_any", .array []⟩,
      ⟨[], "status__in", .array []⟩, ⟨[], "note__icontains", .array []⟩,
      ⟨[], "parts", .array [.array []]⟩] := rfl
  have hkept : ¬ ∃ e ∈ l.entries, e.operand = .array [] ∧ (Key.operator e.key).keepsOperand := by
    rintro ⟨e, he, hlist, hop⟩
    rw [hentries, List.mem_cons, List.mem_cons, List.mem_cons, List.mem_singleton] at he
    obtain rfl | rfl | rfl | rfl := he
    · exact absurd hop (by decide)
    · exact absurd hop (by decide)
    · exact absurd hop (by decide)
    · simp at hlist
  obtain ⟨hfilter, hexclude, -, -⟩ := emptyParensIff_of_lookup rfl hbefore hkeys hplain
  refine ⟨hbefore, hkeys, hplain, by decide, ?_, by decide, ?_⟩
  · exact hfilter.congr (iff_of_false (not_or_intro hnone hkept) id)
  · exact hexclude.congr (iff_of_true (.inr ⟨_, .head _, rfl⟩) trivial)

/-- The object that keeps rows by the list `(NULL)` excludes them by `()`. -/
theorem whereClause_exclude_empty_list :
    let s : Statement := { table := ⟨"sales", .mergeTree⟩ }
    let l : Lookup := .value "status__in" (.array []) .empty
    (∀ e ∈ l.entries, ∀ k ∈ e.keys, IsIdentifier k) ∧
      (∀ e ∈ l.entries, e.operand.rawTexts = []) ∧
      (s.filter (.lookup l)).whereClause = "WHERE (status IN (NULL))" ∧
      (s.exclude l).whereClause = "WHERE (status != ())" ∧
      EmptyParensIff (s.exclude l).whereClause True := by
  intro s l
  have htext : (s.exclude l).whereClause = "WHERE (status != " ++ "()" ++ ")" := by decide
  refine ⟨by decide, by decide, by decide, htext, ?_⟩
  have hpieces := pieces?_of_plain (s := (s.exclude l).whereClause) (by decide)
  refine ⟨_, hpieces, iff_of_true ?_ trivial⟩
  rw [htext, String.toList_append, String.toList_append, List.map_append, List.map_append]
  exact List.infix_append _ emptyParens _

end Statement

end SqlCompose
