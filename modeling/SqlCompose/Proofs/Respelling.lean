import Mathlib.Data.List.Basic
import Mathlib.Tactic.Lemma
import SqlCompose.Proofs.ComparisonText
import SqlCompose.Proofs.ConditionTree
import SqlCompose.Proofs.StatementText

/-!
# Spelling strings with and without escapes

Escaping adds one backslash for each quote and backslash of a string and nothing else. So where two
texts differ only in how the same strings are spelled, the escaped one is longer unless the two are
equal. The texts of operands, comparisons and conditions are all of this kind.
-/

namespace SqlCompose

namespace Text

/-- A character that is escaped. -/
def isSpecial (c : Char) : Bool :=
  c = '\\' || c = '\''

/-- How many characters of strings are escaped. -/
def specials (ss : List String) : Nat :=
  (ss.flatMap String.toList).countP isSpecial

lemma escapeChar_of_isSpecial {c : Char} (h : isSpecial c = true) : escapeChar c = ['\\', c] :=
  if_pos (by simpa [isSpecial] using h)

lemma escapeChar_of_not_isSpecial {c : Char} (h : isSpecial c = false) : escapeChar c = [c] :=
  if_neg (by simpa [isSpecial] using h)

lemma specials_singleton (s : String) : specials [s] = s.toList.countP isSpecial := by
  rw [specials, List.flatMap_singleton]

lemma specials_append (ss rs : List String) : specials (ss ++ rs) = specials ss + specials rs := by
  rw [specials, List.flatMap_append, List.countP_append, ← specials, ← specials]

lemma specials_eq_zero_iff (ss : List String) :
    specials ss = 0 ↔ ∀ s ∈ ss, '\'' ∉ s.toList ∧ '\\' ∉ s.toList := by
  rw [specials, List.countP_eq_zero]
  constructor
  · intro h s hs
    have hmem : ∀ c ∈ s.toList, ¬ isSpecial c = true := fun c hc =>
      h c (List.mem_flatMap.2 ⟨s, hs, hc⟩)
    exact ⟨fun hc => hmem _ hc (by decide), fun hc => hmem _ hc (by decide)⟩
  · intro h c hc hspecial
    obtain ⟨s, hs, hc⟩ := List.mem_flatMap.1 hc
    obtain rfl | rfl : c = '\\' ∨ c = '\'' := by simpa [isSpecial] using hspecial
    · exact (h s hs).2 hc
    · exact (h s hs).1 hc

lemma length_escape (s : String) : (escape s).length = s.length + specials [s] := by
  rw [escape, String.length_ofList, ← String.length_toList, specials_singleton]
  generalize s.toList = cs
  induction cs with
  | nil => rfl
  | cons c cs ih =>
    rw [List.flatMap_cons, List.length_append, ih, List.length_cons, List.countP_cons]
    cases h : isSpecial c with
    | true => simp [escapeChar_of_isSpecial h]; omega
    | false => simp [escapeChar_of_not_isSpecial h]; omega

/-- A backslash is one byte, so that the number of bytes grows as the number of characters does. -/
lemma utf8ByteSize_escape (s : String) :
    (escape s).utf8ByteSize = s.utf8ByteSize + specials [s] := by
  rw [escape, specials_singleton, ← String.ofList_toList (s := s), String.toList_ofList]
  generalize s.toList = cs
  induction cs with
  | nil => rfl
  | cons c cs ih =>
    have hslash : "\\".utf8ByteSize = 1 := by decide
    rw [List.flatMap_cons, String.ofList_append, String.utf8ByteSize_append, ih,
      String.ofList_cons, String.utf8ByteSize_append, List.countP_cons]
    cases h : isSpecial c with
    | true => simp [escapeChar_of_isSpecial h, String.ofList_cons, hslash]; omega
    | false => simp [escapeChar_of_not_isSpecial h, String.ofList_cons]; omega

lemma escape_of_specials_eq_zero {s : String} (h : specials [s] = 0) : escape s = s := by
  rw [specials_singleton, List.countP_eq_zero] at h
  have hchars : ∀ c ∈ s.toList, escapeChar c = [c] := fun c hc =>
    escapeChar_of_not_isSpecial (Bool.eq_false_iff.2 (h c hc))
  rw [escape, List.flatMap_congr hchars, List.flatMap_singleton', String.ofList_toList]

/-- Two texts with the same strings in their literals, escaped in the first one and as they are in
the second one, and with the same text around the literals. -/
inductive Respelled : List String → String → String → Prop where
  | same (t : String) : Respelled [] t t
  | literal (s : String) : Respelled [s] (quoted true s) (quoted false s)
  | append {ss rs : List String} {t t' u u' : String} (h : Respelled ss t t')
    (h' : Respelled rs u u') : Respelled (ss ++ rs) (t ++ u) (t' ++ u')

namespace Respelled

variable {ss rs : List String} {t t' u u' : String}

theorem length_eq (h : Respelled ss t t') : t.length = t'.length + specials ss := by
  induction h with
  | same t => rfl
  | literal s => simp [quoted, length_escape]; omega
  | append h h' ih ih' =>
    rw [String.length_append, String.length_append, ih, ih', specials_append]
    omega

theorem utf8ByteSize_eq (h : Respelled ss t t') :
    t.utf8ByteSize = t'.utf8ByteSize + specials ss := by
  induction h with
  | same t => rfl
  | literal s => simp [quoted, utf8ByteSize_escape]; omega
  | append h h' ih ih' =>
    rw [String.utf8ByteSize_append, String.utf8ByteSize_append, ih, ih', specials_append]
    omega

lemma eq_of_specials_eq_zero (h : Respelled ss t t') (hzero : specials ss = 0) : t = t' := by
  induction h with
  | same t => rfl
  | literal s => simp [quoted, escape_of_specials_eq_zero hzero]
  | append h h' ih ih' =>
    rw [specials_append] at hzero
    rw [ih (by omega), ih' (by omega)]

/-- The two spellings agree only where nothing is escaped, as no two escapes make up for each
other. -/
theorem eq_iff (h : Respelled ss t t') : t = t' ↔ specials ss = 0 := by
  refine ⟨fun heq => ?_, h.eq_of_specials_eq_zero⟩
  have hlength := h.length_eq
  rw [heq] at hlength
  omega

lemma eq_empty_iff (h : Respelled ss t t') : t = "" ↔ t' = "" := by
  induction h with
  | same t => rfl
  | literal s => simp [quoted]
  | append h h' ih ih' => rw [String.append_eq_empty_iff, String.append_eq_empty_iff, ih, ih']

lemma wrap (a b : String) (h : Respelled ss t t') : Respelled ss (a ++ t ++ b) (a ++ t' ++ b) := by
  have hall := ((same a).append h).append (same b)
  rwa [List.nil_append, List.append_nil] at hall

lemma front (a : String) (h : Respelled ss t t') : Respelled ss (a ++ t) (a ++ t') :=
  (same a).append h

lemma intercalate {α : Type} (sep : String) {f f' : α → String} {g : α → List String}
    {items : List α} (h : ∀ a ∈ items, Respelled (g a) (f a) (f' a)) :
    Respelled (items.flatMap g) (sep.intercalate (items.map f)) (sep.intercalate (items.map f')) := by
  induction items with
  | nil => exact same ""
  | cons a items ih =>
    have ha := h a (by simp)
    have hrest := ih fun b hb => h b (List.mem_cons_of_mem a hb)
    cases items with
    | nil => simpa using ha
    | cons b items =>
      simp only [List.map_cons, String.intercalate_cons_cons] at hrest ⊢
      have hboth := (ha.append (same sep)).append hrest
      rwa [List.append_nil] at hboth

lemma spaced (h : Respelled ss t t') : Respelled ss (spaced t) (SqlCompose.spaced t') := by
  by_cases ht : t = ""
  · have ht' := h.eq_empty_iff.1 ht
    simpa [SqlCompose.spaced, ht, ht'] using h
  · have ht' : t' ≠ "" := fun h' => ht (h.eq_empty_iff.2 h')
    simpa [SqlCompose.spaced, ht, ht'] using h.front " "

end Respelled

end Text

open Text

namespace Value

/-- The operand as a string, if it is one. -/
def text? : Value → Option String
  | text s => some s
  | _ => none

/-- The strings that an operand holds, at any depth of its lists. -/
def texts (v : Value) : List String :=
  v.parts.filterMap text?

lemma texts_array (items : List Value) : (array items).texts = items.flatMap texts := by
  rw [texts, parts_array, List.filterMap_cons_none rfl, List.filterMap_flatMap]
  rfl

theorem respelled_element (v : Value) :
    Respelled v.texts (v.element true) (v.element false) := by
  induction v using induct with
  | text s => exact .literal s
  | array items ih =>
    rw [element_array, element_array, texts_array]
    exact .wrap "[" "]" (.intercalate ", " ih)
  | _ => exact .same _

lemma respelled_joined (items : List Value) :
    Respelled (array items).texts (joined true items) (joined false items) := by
  rw [joined_eq, joined_eq, texts_array]
  exact .intercalate ", " fun v _ => v.respelled_element

lemma respelled_literal (v : Value) : Respelled v.texts (v.literal true) (v.literal false) := by
  cases v with
  | array items => exact .wrap "(" ")" (respelled_joined items)
  | _ => exact respelled_element _

lemma respelled_arrayLiteral (v : Value) :
    Respelled v.texts (v.arrayLiteral true) (v.arrayLiteral false) := by
  cases v with
  | array items => exact .wrap "[" "]" (respelled_joined items)
  | _ => exact .wrap "[" "]" (respelled_element _)

lemma respelled_candidates (v : Value) :
    Respelled v.texts (v.candidates true) (v.candidates false) := by
  cases v with
  | array items =>
    cases items with
    | nil => exact .same "NULL"
    | cons v rest => exact respelled_joined (v :: rest)
  | subquery sql => exact .same sql
  | _ => exact respelled_element _

lemma respelled_arrayArgument (v : Value) :
    Respelled v.texts (v.arrayArgument true) (v.arrayArgument false) := by
  cases v with
  | subquery sql => exact .same ("(" ++ sql ++ ")")
  | _ => exact respelled_arrayLiteral _

lemma texts_of_isNull {v : Value} (h : v.isNull = true) : v.texts = [] := by
  cases v with
  | null => rfl
  | _ => contradiction

end Value

theorem Comparison.respelled_sql (c : Comparison) :
    Respelled c.value.texts (c.sql true) (c.sql false) := by
  by_cases hnull : c.value.isNull = true
  · rw [sql_of_isNull hnull, sql_of_isNull hnull, Value.texts_of_isNull hnull]
    exact .same _
  rw [Bool.not_eq_true] at hnull
  by_cases hop : c.operator.isMembership = false
  · rw [sql_of_not_isMembership hnull hop, sql_of_not_isMembership hnull hop]
    exact .front _ c.value.respelled_literal
  · obtain hop | hop := Operator.eq_isIn_or_eq_hasAny hop
    · rw [sql_of_isIn hnull hop, sql_of_isIn hnull hop]
      exact .wrap _ ")" c.value.respelled_candidates
    · rw [sql_of_hasAny hnull hop, sql_of_hasAny hnull hop]
      exact .wrap _ ")" c.value.respelled_arrayArgument

namespace Condition

/-- The strings that the comparisons of a tree hold. -/
def texts (c : Condition) : List String :=
  c.leaves.flatMap fun leaf => leaf.value.texts

lemma texts_leaf (c : Comparison) : (leaf c).texts = c.value.texts := by
  rw [texts, leaves_leaf, List.flatMap_singleton]

lemma texts_group (joiner : Joiner) (negated : Bool) (members : List Condition) :
    (group joiner negated members).texts = members.flatMap texts :=
  flatMap_leaves_group _ joiner negated members

lemma respelled_statementSql {c : Condition} (h : Respelled c.texts (c.sql true) (c.sql false)) :
    Respelled c.texts (c.statementSql true) (c.statementSql false) := by
  cases c with
  | leaf c =>
    rw [sql_leaf, sql_leaf] at h
    exact .wrap "(" ")" h
  | group joiner negated members => exact h

lemma respelled_body (joiner : Joiner) {members : List Condition}
    (h : ∀ m ∈ members, Respelled m.texts (m.sql true) (m.sql false)) :
    Respelled (members.flatMap texts) (body true joiner members) (body false joiner members) := by
  rcases members with _ | ⟨first, _ | ⟨second, rest⟩⟩
  · rw [body_nil, body_nil]
    exact .same _
  · rw [body_singleton, body_singleton, List.flatMap_singleton]
    exact respelled_statementSql (h first (by simp))
  · rw [body_of_two_le true joiner (by simp), body_of_two_le false joiner (by simp)]
    exact .wrap "(" ")" (.intercalate _ h)

theorem respelled_sql (c : Condition) : Respelled c.texts (c.sql true) (c.sql false) := by
  induction c using induct with
  | leaf c =>
    rw [texts_leaf, sql_leaf, sql_leaf]
    exact c.respelled_sql
  | group joiner negated members ih =>
    rw [texts_group, sql_group, sql_group]
    have hbody := respelled_body joiner ih
    split
    · exact .wrap "(NOT " ")" hbody
    · exact hbody

lemma respelled_clause (keyword : String) (cs : List Condition) :
    Respelled (cs.flatMap texts) (clause keyword true cs) (clause keyword false cs) := by
  have hmember : ∀ c ∈ cs, Respelled c.texts (c.statementSql true) (c.statementSql false) :=
    fun c _ => respelled_statementSql c.respelled_sql
  rcases cs with _ | ⟨first, _ | ⟨second, rest⟩⟩
  · exact .same ""
  · rw [List.flatMap_singleton]
    exact .front _ (hmember first (by simp))
  · rw [clause, clause, conjunction?_of_two_le true (by simp),
      conjunction?_of_two_le false (by simp)]
    exact .front _ (.wrap "(" ")" (.intercalate " AND " hmember))

end Condition

end SqlCompose
