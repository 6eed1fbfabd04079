import Mathlib.Data.List.Basic
import SqlCompose.Proofs.Hollow
import SqlCompose.Proofs.Literals
import SqlCompose.Proofs.PlainTexts
import SqlCompose.Proofs.StatementText

/-!
# Where conditions are cut at their literals

Whatever the strings of a condition hold, its text is cut at the same places as that of the hollow
condition, and the literals in it stand for exactly its strings.
-/

namespace SqlCompose

namespace Text

def QuoteFree (ts : List String) : Prop :=
  ∀ t ∈ ts, '\'' ∉ t.toList

instance (ts : List String) : Decidable (QuoteFree ts) :=
  inferInstanceAs (Decidable (∀ t ∈ ts, '\'' ∉ t.toList))

lemma QuoteFree.of_flatMap {α : Type} {items : List α} {f : α → List String}
    (h : QuoteFree (items.flatMap f)) {a : α} (ha : a ∈ items) : QuoteFree (f a) :=
  fun t ht => h t (List.mem_flatMap.2 ⟨a, ha, ht⟩)

lemma quote_not_mem_intercalate {sep : String} (hsep : '\'' ∉ sep.toList) {ts : List String}
    (h : QuoteFree ts) : '\'' ∉ (sep.intercalate ts).toList := by
  intro hmem
  obtain hmem | ⟨t, ht, hmem⟩ := mem_intercalate hmem
  · exact hsep hmem
  · exact h t ht hmem

/-- Two texts are cut at the same places, and the literals of the first one stand for `ss`. -/
def Shaped (t hollow : String) (ss : List String) : Prop :=
  ∃ ps qs, pieces? t = some ps ∧ pieces? hollow = some qs ∧
    ps.map Piece.hollow = qs.map Piece.hollow ∧ contents ps = ss

namespace Shaped

variable {t t₀ u u₀ : String} {ss rs : List String}

lemma plain (h : '\'' ∉ t.toList) : Shaped t t [] := by
  refine ⟨_, _, pieces?_of_plain h, pieces?_of_plain h, rfl, ?_⟩
  rw [contents, List.filterMap_map]
  exact List.filterMap_eq_nil_iff.2 fun c _ => rfl

lemma append (ht : Shaped t t₀ ss) (hu : Shaped u u₀ rs) :
    Shaped (t ++ u) (t₀ ++ u₀) (ss ++ rs) := by
  obtain ⟨ps, ps₀, hps, hps₀, hps', rfl⟩ := ht
  obtain ⟨qs, qs₀, hqs, hqs₀, hqs', rfl⟩ := hu
  refine ⟨_, _, pieces?_append hps hqs, pieces?_append hps₀ hqs₀, ?_, ?_⟩
  · rw [List.map_append, List.map_append, hps', hqs']
  · rw [contents, contents, contents, List.filterMap_append]

lemma quoted (s s₀ : String) : Shaped (quoted true s) (quoted true s₀) [s] := by
  refine ⟨_, _, pieces?_quoted s, pieces?_quoted s₀, rfl, ?_⟩
  simp [contents, Piece.content?, decode_flatMap_escapeChar]

lemma quoted_plain {s : String} (hslash : '\\' ∉ s.toList) (hquote : '\'' ∉ s.toList) :
    Shaped (Text.quoted false s) (Text.quoted false s) [s] := by
  rw [quoted_of_plain hslash hquote]
  exact quoted s s

lemma wrap {a b : String} (ha : '\'' ∉ a.toList) (hb : '\'' ∉ b.toList) (ht : Shaped t t₀ ss) :
    Shaped (a ++ t ++ b) (a ++ t₀ ++ b) ss := by
  have h := ((plain ha).append ht).append (plain hb)
  rwa [List.nil_append, List.append_nil] at h

lemma parens (ht : Shaped t t₀ ss) : Shaped ("(" ++ t ++ ")") ("(" ++ t₀ ++ ")") ss :=
  wrap (by decide) (by decide) ht

lemma brackets (ht : Shaped t t₀ ss) : Shaped ("[" ++ t ++ "]") ("[" ++ t₀ ++ "]") ss :=
  wrap (by decide) (by decide) ht

lemma intercalate {α : Type} {sep : String} (hsep : '\'' ∉ sep.toList) {f f₀ : α → String}
    {g : α → List String} {items : List α} (h : ∀ a ∈ items, Shaped (f a) (f₀ a) (g a)) :
    Shaped (sep.intercalate (items.map f)) (sep.intercalate (items.map f₀)) (items.flatMap g) := by
  induction items with
  | nil => exact plain (by simp)
  | cons a items ih =>
    have ha := h a (by simp)
    have hrest := ih fun b hb => h b (List.mem_cons_of_mem a hb)
    cases items with
    | nil => simpa using ha
    | cons b items =>
      simp only [List.map_cons, String.intercalate_cons_cons] at hrest ⊢
      have hboth := (ha.append (plain hsep)).append hrest
      rwa [List.append_nil] at hboth

lemma eq_empty_iff (h : Shaped t t₀ ss) : t = "" ↔ t₀ = "" := by
  obtain ⟨ps, qs, hps, hqs, hhollow, -⟩ := h
  have hempty : ∀ {s : String} {ps : List Piece}, pieces? s = some ps → (s = "" ↔ ps = []) := by
    intro s ps hs
    have htext := flatMap_text_of_pieces? hs
    constructor
    · rintro rfl
      simpa [pieces?, piecesFrom?] using hs.symm
    · rintro rfl
      exact String.toList_eq_nil_iff.1 htext.symm
  rw [hempty hps, hempty hqs, ← List.map_eq_nil_iff (f := Piece.hollow), hhollow,
    List.map_eq_nil_iff]

lemma spaced (h : Shaped t t₀ ss) : Shaped (spaced t) (SqlCompose.spaced t₀) ss := by
  by_cases ht : t = ""
  · have ht₀ := h.eq_empty_iff.1 ht
    simpa [SqlCompose.spaced, ht, ht₀] using h
  · have ht₀ : t₀ ≠ "" := fun h₀ => ht (h.eq_empty_iff.2 h₀)
    have hblank : Shaped " " " " [] := plain (by decide)
    simpa [SqlCompose.spaced, ht, ht₀] using hblank.append h

end Shaped

end Text

open Text

namespace Value

mutual

/-- The texts of the sub-queries in an operand. -/
def rawTexts : Value → List String
  | array items => rawTextsOfList items
  | subquery sql => [sql]
  | _ => []

def rawTextsOfList : List Value → List String
  | [] => []
  | v :: rest => rawTexts v ++ rawTextsOfList rest

end

mutual

/-- The strings that an operand is written with, in order. -/
def strings : Value → List String
  | text s => [s]
  | date d => [d.text]
  | moment t => [t.text]
  | uuid u => [u.text]
  | array items => stringsOfList items
  | _ => []

def stringsOfList : List Value → List String
  | [] => []
  | v :: rest => strings v ++ stringsOfList rest

end

lemma rawTexts_array (items : List Value) : (array items).rawTexts = items.flatMap rawTexts := by
  have hlist : ∀ items, rawTextsOfList items = items.flatMap rawTexts := by
    intro items
    induction items with
    | nil => rfl
    | cons v rest ih => simp [rawTextsOfList, ih]
  rw [rawTexts, hlist]

lemma strings_array (items : List Value) : (array items).strings = items.flatMap strings := by
  have hlist : ∀ items, stringsOfList items = items.flatMap strings := by
    intro items
    induction items with
    | nil => rfl
    | cons v rest ih => simp [stringsOfList, ih]
  rw [strings, hlist]

lemma rawTexts_hollow (v : Value) : v.hollow.rawTexts = v.rawTexts := by
  induction v using induct with
  | array items ih =>
    rw [hollow_array, rawTexts_array, rawTexts_array, List.flatMap_map]
    exact List.flatMap_congr ih
  | _ => simp [hollow, rawTexts]

/-- The strings that an operand is written with under an operator: a pattern is one string. -/
def stringsUnder (op : Operator) (v : Value) : List String :=
  if op = .like then (if v.isNull then [] else ["%" ++ v.plainText ++ "%"]) else v.strings

lemma strings_likePattern (v : Value) : v.likePattern.strings = v.stringsUnder .like := by
  cases v <;> simp [likePattern, strings, stringsUnder, isNull]

lemma strings_asList (v : Value) : v.asList.strings = v.strings := by
  cases v <;> simp [asList, strings, stringsOfList]

lemma quote_not_mem_boolText (b : Bool) : '\'' ∉ (boolText b).toList := by
  cases b <;> decide

lemma quote_not_mem_write (x : Float) : '\'' ∉ (floatStyle.write x).toList := by
  obtain h | h := numeric_or_word_of_float x
  · exact h.not_mem rfl
  · simp only [List.mem_cons, List.not_mem_nil, or_false] at h
    rcases h with h | h | h <;> rw [h] <;> decide

theorem shaped_element {v : Value} (h : QuoteFree v.rawTexts) :
    Shaped (v.element true) (v.hollow.element true) v.strings := by
  induction v using induct with
  | null => exact .plain (by decide)
  | bool b => exact .plain (quote_not_mem_boolText b)
  | int n => exact .plain ((numeric_int n.toInt).not_mem rfl)
  | uint n => exact .plain ((numeric_nat n.toNat).not_mem rfl)
  | float x => exact .plain (quote_not_mem_write x)
  | text s => exact .quoted s ""
  | date d =>
    exact .quoted_plain (d.numeric_text.not_mem rfl) (d.numeric_text.not_mem rfl)
  | moment t => exact .quoted_plain t.backslash_not_mem_text t.quote_not_mem_text
  | uuid u => exact .quoted_plain u.backslash_not_mem_text u.quote_not_mem_text
  | array items ih =>
    rw [rawTexts_array] at h
    rw [hollow_array, element_array, element_array, strings_array, List.map_map]
    refine .brackets (.intercalate (by decide) ?_)
    exact fun v hv => ih v hv (h.of_flatMap hv)
  | subquery sql =>
    have hsql := h sql (by simp [rawTexts])
    exact .parens (.plain hsql)

lemma shaped_joined {items : List Value} (h : QuoteFree (items.flatMap rawTexts)) :
    Shaped (joined true items) (joined true (items.map hollow)) (items.flatMap strings) := by
  rw [joined_eq, joined_eq, List.map_map]
  exact .intercalate (by decide) fun v hv => shaped_element (h.of_flatMap hv)

lemma shaped_literal {v : Value} (h : QuoteFree v.rawTexts) :
    Shaped (v.literal true) (v.hollow.literal true) v.strings := by
  cases v with
  | array items =>
    rw [rawTexts_array] at h
    rw [hollow_array, strings_array]
    exact .parens (shaped_joined h)
  | _ => exact shaped_element h

lemma shaped_arrayLiteral {v : Value} (h : QuoteFree v.rawTexts) :
    Shaped (v.arrayLiteral true) (v.hollow.arrayLiteral true) v.strings := by
  cases v with
  | array items =>
    rw [rawTexts_array] at h
    rw [hollow_array, strings_array]
    exact .brackets (shaped_joined h)
  | _ => exact .brackets (shaped_element h)

lemma shaped_candidates {v : Value} (h : QuoteFree v.rawTexts) :
    Shaped (v.candidates true) (v.hollow.candidates true) v.strings := by
  cases v with
  | array items =>
    rw [rawTexts_array] at h
    rw [hollow_array, strings_array]
    cases items with
    | nil => exact .plain (by decide)
    | cons v rest => exact shaped_joined h
  | subquery sql => exact .plain (h sql (by simp [rawTexts]))
  | _ => exact shaped_element h

lemma shaped_arrayArgument {v : Value} (h : QuoteFree v.rawTexts) :
    Shaped (v.arrayArgument true) (v.hollow.arrayArgument true) v.strings := by
  cases v with
  | array items =>
    have hliteral := shaped_arrayLiteral h
    rw [hollow_array] at hliteral ⊢
    exact hliteral
  | subquery sql =>
    have hsql := h sql (by simp [rawTexts])
    exact .parens (.plain hsql)
  | _ => exact shaped_arrayLiteral h

end Value

namespace Comparison

def rawTexts (c : Comparison) : List String :=
  c.path :: c.value.rawTexts

lemma rawTexts_hollow (c : Comparison) : c.hollow.rawTexts = c.rawTexts := by
  simp [rawTexts, hollow, Value.rawTexts_hollow]

lemma strings_prepared (path : String) (op : Operator) (v : Value) :
    (prepared path op v).value.strings = v.stringsUnder op := by
  rw [prepared]
  by_cases hlike : op = .like
  · simp only [hlike, if_true, Value.strings_likePattern]
  · simp only [hlike, if_false, Value.stringsUnder]
    split
    · exact v.strings_asList
    · rfl

theorem shaped_sql {c : Comparison} (h : QuoteFree c.rawTexts) :
    Shaped (c.sql true) (c.hollow.sql true) c.value.strings := by
  have hpath : '\'' ∉ c.path.toList := h c.path (by simp [rawTexts])
  have hvalue : QuoteFree c.value.rawTexts := fun t ht => h t (List.mem_cons_of_mem _ ht)
  by_cases hnull : c.value.isNull = true
  · have hstrings : c.value.strings = [] := by
      cases hv : c.value <;> simp_all [Value.isNull, Value.strings]
    rw [sql_of_isNull hnull, sql_of_isNull (by simpa [hollow] using hnull), hstrings]
    exact .plain (by simpa [hollow, String.toList_append] using hpath)
  rw [Bool.not_eq_true] at hnull
  have hnull' : c.hollow.value.isNull = false := by simpa [hollow] using hnull
  have hoperator : c.hollow.operator = c.operator := rfl
  by_cases hop : c.operator.isMembership = false
  · rw [sql_of_not_isMembership hnull hop, sql_of_not_isMembership hnull' hop]
    have hfront : '\'' ∉ (c.path ++ " " ++ c.operator.token ++ " ").toList := by
      cases c.operator <;> simpa [String.toList_append, Operator.token] using hpath
    exact (Shaped.plain hfront).append (Value.shaped_literal hvalue)
  · obtain hop | hop := Operator.eq_isIn_or_eq_hasAny hop
    · rw [sql_of_isIn hnull hop, sql_of_isIn hnull' hop]
      refine .wrap ?_ (by decide) (Value.shaped_candidates hvalue)
      simpa [String.toList_append] using hpath
    · rw [sql_of_hasAny hnull hop, sql_of_hasAny hnull' hop]
      refine .wrap ?_ (by decide) (Value.shaped_arrayArgument hvalue)
      simpa [String.toList_append] using hpath

end Comparison

namespace Condition

def rawTexts (c : Condition) : List String :=
  c.leaves.flatMap Comparison.rawTexts

def strings (c : Condition) : List String :=
  c.leaves.flatMap fun leaf => leaf.value.strings

lemma rawTexts_group (joiner : Joiner) (negated : Bool) (members : List Condition) :
    (group joiner negated members).rawTexts = members.flatMap rawTexts :=
  flatMap_leaves_group _ joiner negated members

lemma strings_group (joiner : Joiner) (negated : Bool) (members : List Condition) :
    (group joiner negated members).strings = members.flatMap strings :=
  flatMap_leaves_group _ joiner negated members

lemma leaves_hollow (c : Condition) : c.hollow.leaves = c.leaves.map Comparison.hollow := by
  induction c using induct with
  | leaf c => simp
  | group joiner negated members ih =>
    rw [hollow_group, leaves_group, leaves_group, List.flatMap_map, List.map_flatMap]
    exact List.flatMap_congr ih

lemma rawTexts_hollow (c : Condition) : c.hollow.rawTexts = c.rawTexts := by
  rw [rawTexts, leaves_hollow, List.flatMap_map, rawTexts]
  exact List.flatMap_congr fun leaf _ => leaf.rawTexts_hollow

lemma flatMap_rawTexts_map_hollow (cs : List Condition) :
    (cs.map hollow).flatMap rawTexts = cs.flatMap rawTexts := by
  rw [List.flatMap_map]
  exact List.flatMap_congr fun c _ => c.rawTexts_hollow

lemma statementSql_eq (escaping : Bool) (c : Condition) :
    c.statementSql escaping =
      if c.isGroup then c.sql escaping else "(" ++ c.sql escaping ++ ")" := by
  cases c <;> simp [statementSql, isGroup]

@[simp] lemma isGroup_hollow (c : Condition) : c.hollow.isGroup = c.isGroup := by
  cases c <;> simp [isGroup]

lemma shaped_statementSql {c : Condition}
    (h : Shaped (c.sql true) (c.hollow.sql true) c.strings) :
    Shaped (c.statementSql true) (c.hollow.statementSql true) c.strings := by
  rw [statementSql_eq, statementSql_eq, isGroup_hollow]
  split
  · exact h
  · exact .parens h

lemma shaped_body (joiner : Joiner) {members : List Condition}
    (h : ∀ m ∈ members, Shaped (m.sql true) (m.hollow.sql true) m.strings) :
    Shaped (body true joiner members) (body true joiner (members.map hollow))
      (members.flatMap strings) := by
  rcases members with _ | ⟨first, _ | ⟨second, rest⟩⟩
  · rw [List.map_nil, body_nil]
    exact .plain (by split <;> decide)
  · rw [List.map_singleton, body_singleton, body_singleton, List.flatMap_singleton]
    exact shaped_statementSql (h first (by simp))
  · have hsep : '\'' ∉ (" " ++ joiner.token ++ " ").toList := by
      cases joiner <;> decide
    rw [body_of_two_le true joiner (by simp), body_of_two_le true joiner (by simp), List.map_map]
    exact .parens (.intercalate hsep h)

theorem shaped_sql {c : Condition} (h : QuoteFree c.rawTexts) :
    Shaped (c.sql true) (c.hollow.sql true) c.strings := by
  induction c using induct with
  | leaf c =>
    rw [hollow_leaf, sql_leaf, sql_leaf, strings, leaves_leaf, List.flatMap_singleton]
    exact Comparison.shaped_sql (by simpa [rawTexts] using h)
  | group joiner negated members ih =>
    rw [rawTexts_group] at h
    rw [hollow_group, sql_group, sql_group, strings_group]
    have hbody := shaped_body joiner fun m hm => ih m hm (h.of_flatMap hm)
    split
    · exact .wrap (by decide) (by decide) hbody
    · exact hbody

lemma shaped_clause {keyword : String} (hkeyword : '\'' ∉ keyword.toList) {cs : List Condition}
    (h : QuoteFree (cs.flatMap rawTexts)) :
    Shaped (clause keyword true cs) (clause keyword true (cs.map hollow)) (cs.flatMap strings) := by
  have hfront : '\'' ∉ (keyword ++ " ").toList := by
    simpa [String.toList_append] using hkeyword
  have hmember : ∀ c ∈ cs, Shaped (c.statementSql true) (c.hollow.statementSql true) c.strings :=
    fun c hc => shaped_statementSql (shaped_sql (h.of_flatMap hc))
  rcases cs with _ | ⟨first, _ | ⟨second, rest⟩⟩
  · exact .plain (by simp [clause, conjunction?])
  · rw [List.flatMap_singleton]
    exact (Shaped.plain hfront).append (hmember first (by simp))
  · rw [clause, clause, conjunction?_of_two_le true (by simp),
      conjunction?_of_two_le true (by simp), List.map_map]
    exact (Shaped.plain hfront).append (.parens (.intercalate (by decide) hmember))

end Condition

end SqlCompose
