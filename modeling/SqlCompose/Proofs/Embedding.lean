import SqlCompose.Proofs.WovenStatement

/-!
# Statements inside statements

A statement that is written into another one must not reach beyond the brackets around it. A text is
closed where every bracket outside of its literals has its counterpart; a statement with escaped
literals and bare names is closed, whatever its values hold, and so is every part of it.
-/

namespace SqlCompose

namespace Text

def Piece.outside? : Piece → Option Char
  | outside c => some c
  | literal _ => none

/-- The open brackets behind a character, innermost first; a closing one has to match. -/
def bracket (stack : List Char) (c : Char) : Option (List Char) :=
  if c = '(' ∨ c = '[' then some (c :: stack)
  else if c = ')' then if stack.head? = some '(' then some stack.tail else none
  else if c = ']' then if stack.head? = some '[' then some stack.tail else none
  else some stack

/-- The open brackets behind pieces that stand inside other brackets. -/
def bracketsBehind (stack : List Char) (ps : List Piece) : Option (List Char) :=
  (ps.filterMap Piece.outside?).foldlM bracket stack

/-- The text ends outside of literals, and every bracket outside of them has its counterpart. -/
def Closed (s : String) : Prop :=
  (pieces? s).bind (bracketsBehind []) = some []

instance (s : String) : Decidable (Closed s) :=
  inferInstanceAs (Decidable (_ = _))

lemma bracket_append {stack stack' : List Char} {c : Char} (h : bracket stack c = some stack')
    (base : List Char) : bracket (stack ++ base) c = some (stack' ++ base) := by
  unfold bracket at h ⊢
  cases stack <;> grind

lemma foldlM_bracket_append {stack stack' : List Char} {cs : List Char}
    (h : cs.foldlM bracket stack = some stack') (base : List Char) :
    cs.foldlM bracket (stack ++ base) = some (stack' ++ base) := by
  induction cs generalizing stack with
  | nil =>
    obtain rfl := Option.some.inj h
    rfl
  | cons c cs ih =>
    rw [List.foldlM_cons] at h ⊢
    obtain ⟨stack₁, hstep, hrest⟩ := Option.bind_eq_some_iff.1 h
    rw [bracket_append hstep base]
    exact ih hrest

/-- A closed text leaves the brackets around it as they are. -/
lemma closed_iff {s : String} :
    Closed s ↔ ∃ ps, pieces? s = some ps ∧ ∀ stack, bracketsBehind stack ps = some stack := by
  constructor
  · intro h
    obtain ⟨ps, hps, hclosed⟩ := Option.bind_eq_some_iff.1 h
    exact ⟨ps, hps, foldlM_bracket_append hclosed⟩
  · rintro ⟨ps, hps, hclosed⟩
    rw [Closed, hps]
    exact hclosed []

lemma bracketsBehind_append (stack : List Char) (ps qs : List Piece) :
    bracketsBehind stack (ps ++ qs) =
      (bracketsBehind stack ps).bind fun stack' => bracketsBehind stack' qs := by
  rw [bracketsBehind, List.filterMap_append, List.foldlM_append]
  rfl

namespace Closed

variable {s t : String}

lemma bare (h : Bare s) : Closed s := by
  rw [closed_iff]
  refine ⟨_, pieces?_of_plain (h.not_mem rfl), fun stack => ?_⟩
  have hchars : (s.toList.map Piece.outside).filterMap Piece.outside? = s.toList := by
    simp [List.filterMap_map, Function.comp_def, Piece.outside?]
  rw [bracketsBehind, hchars]
  have hstep : ∀ c ∈ s.toList, bracket stack c = some stack := by
    intro c hc
    have hne : ∀ d, isMark d = true → c ≠ d := by
      rintro d hd rfl
      exact h.not_mem hd hc
    simp [bracket, hne '(' rfl, hne ')' rfl, hne '[' rfl, hne ']' rfl]
  generalize s.toList = cs at hstep
  induction cs with
  | nil => rfl
  | cons c cs ih =>
    rw [List.foldlM_cons, hstep c (by simp)]
    exact ih fun d hd => hstep d (List.mem_cons_of_mem c hd)

lemma quoted (s : String) : Closed (quoted true s) := by
  rw [Closed, pieces?_quoted]
  rfl

lemma append (hs : Closed s) (ht : Closed t) : Closed (s ++ t) := by
  rw [closed_iff] at hs ht ⊢
  obtain ⟨ps, hps, hclosed⟩ := hs
  obtain ⟨qs, hqs, hclosed'⟩ := ht
  refine ⟨_, pieces?_append hps hqs, fun stack => ?_⟩
  rw [bracketsBehind_append, hclosed, Option.bind_some, hclosed']

/-- Two texts whose brackets match enclose a closed text in a closed one. -/
lemma enclosed {front back : String} {ps qs : List Piece} (hfront : pieces? front = some ps)
    (hback : pieces? back = some qs)
    (hmatch : ∀ stack, (bracketsBehind stack ps).bind (bracketsBehind · qs) = some stack)
    (hs : Closed s) : Closed (front ++ s ++ back) := by
  obtain ⟨rs, hrs, hclosed⟩ := closed_iff.1 hs
  refine closed_iff.2 ⟨_, pieces?_append (pieces?_append hfront hrs) hback, fun stack => ?_⟩
  rw [bracketsBehind_append, bracketsBehind_append, ← hmatch stack]
  cases bracketsBehind stack ps <;> simp [hclosed]

lemma parens (hs : Closed s) : Closed ("(" ++ s ++ ")") :=
  @enclosed s "(" ")" [.outside '('] [.outside ')'] rfl rfl (fun _ => rfl) hs

lemma brackets (hs : Closed s) : Closed ("[" ++ s ++ "]") :=
  @enclosed s "[" "]" [.outside '['] [.outside ']'] rfl rfl (fun _ => rfl) hs

end Closed

/-- A text that is woven of closed texts is closed. -/
theorem closed_of_woven {s : String} (h : Woven Closed s) : Closed s := by
  induction h with
  | bare h => exact .bare h
  | given h => exact h
  | literal s => exact .quoted s
  | append _ _ ht hu => exact ht.append hu
  | parens _ h => exact h.parens
  | brackets _ h => exact h.brackets

example : Closed "id IN ('(', [1])" ∧ ¬Closed "id IN (1]" := by
  decide

end Text

open Text

namespace Value

lemma mem_rawTexts_of_mem_parts {v w : Value} (h : v ∈ w.parts) {t : String}
    (ht : t ∈ v.rawTexts) : t ∈ w.rawTexts := by
  induction w using induct with
  | array items ih =>
    rw [parts_array] at h
    rcases List.mem_cons.1 h with rfl | h
    · exact ht
    · obtain ⟨item, hitem, h⟩ := List.mem_flatMap.1 h
      rw [rawTexts_array]
      exact List.mem_flatMap.2 ⟨item, hitem, ih item hitem h⟩
  | _ =>
    obtain rfl := List.mem_singleton.1 h
    exact ht

end Value

namespace Statement

/-- Literals are escaped, names are bare, and every sub-query in an operand is a statement of the
same kind. -/
inductive Embeddable : Statement → Prop where
  | intro {s : Statement} (source : String → Statement)
    (escapes : s.settings.escapeStrings = true) (table : Bare s.table.name)
    (names : ∀ t ∈ s.names, Bare t) (paths : ∀ leaf ∈ s.leaves, Bare leaf.path)
    (isQuery : ∀ leaf ∈ s.leaves, ∀ t ∈ leaf.value.rawTexts,
      (source t).asSubquery = .subquery t)
    (embeddable : ∀ leaf ∈ s.leaves, ∀ t ∈ leaf.value.rawTexts, Embeddable (source t)) :
    Embeddable s

variable {s : Statement}

/-- The sub-queries of a statement are closed, because they are statements themselves. -/
lemma spliced_of_embeddable (h : s.Embeddable) : s.Spliced Closed := by
  induction h with
  | intro source escapes table names paths isQuery _ ih =>
    refine ⟨escapes, table, names, fun leaf hleaf => ⟨paths leaf hleaf, fun t ht => ?_⟩⟩
    have hsql : (source t).sql = t := Value.subquery.inj (isQuery leaf hleaf t ht)
    rw [← hsql]
    exact closed_of_woven (woven_sql (ih leaf hleaf t ht))

/-- An embeddable statement is closed, and so is all that it is put together from: what it selects,
its clauses, and the literals of its operands and of their items at any depth. -/
theorem closed_of_embeddable (h : s.Embeddable) :
    Closed s.sql ∧ Closed (Projection.list s.projection) ∧ (∀ clause ∈ s.clauses, Closed clause) ∧
      ∀ leaf ∈ s.leaves, ∀ v ∈ leaf.value.parts,
        Closed (v.element true) ∧ Closed (v.literal true) ∧ Closed (v.arrayLiteral true) := by
  have hspliced := spliced_of_embeddable h
  refine ⟨closed_of_woven (woven_sql hspliced), closed_of_woven (woven_projection hspliced),
    fun clause hclause => closed_of_woven (woven_clauses hspliced clause hclause),
    fun leaf hleaf v hv => ?_⟩
  have hgiven : ∀ t ∈ v.rawTexts, Closed t := fun t ht =>
    (hspliced.leaves leaf hleaf).given t (Value.mem_rawTexts_of_mem_parts hv ht)
  exact ⟨closed_of_woven (Value.woven_element hgiven), closed_of_woven (Value.woven_literal hgiven),
    closed_of_woven (Value.woven_arrayLiteral hgiven)⟩

/-- The users whose name holds a bracket and a quote. -/
def users : Statement where
  table := ⟨"users", .mergeTree⟩
  conditions := [.leaf (.prepared "name" .like (.text "it's :("))]
  projection := [.column "id"]

/-- The sales of these users, with the sub-query among the items of a list and in a pattern too. -/
def sales : Statement where
  table := ⟨"sales", .mergeTree⟩
  conditions :=
    [.leaf (.prepared "user_id" .isIn users.asSubquery),
      .leaf (.prepared "note" .like users.asSubquery)]
  grouping := some
    { fields := ["user_id"]
      having := [.leaf (.prepared "top" .hasAny (.array [.int 1, .array [users.asSubquery]]))] }

theorem closed_sales :
    Closed sales.sql ∧
      sales.whereClause =
        "WHERE ((user_id IN (SELECT id FROM users WHERE (name LIKE '%it\\'s :(%'))) AND " ++
          "(note LIKE '%SELECT id FROM users WHERE (name LIKE \\'%it\\\\\\'s :(%\\')%'))" := by
  have hnone : ∀ leaf ∈ users.leaves, ∀ t, t ∉ leaf.value.rawTexts := by
    have hnil : ∀ leaf ∈ users.leaves, leaf.value.rawTexts = [] := by decide
    intro leaf hleaf t
    simp [hnil leaf hleaf]
  have husers : users.Embeddable :=
    .intro (fun _ => users) rfl (by decide) (by decide) (by decide)
      (fun leaf hleaf t ht => absurd ht (hnone leaf hleaf t))
      (fun leaf hleaf t ht => absurd ht (hnone leaf hleaf t))
  have hqueries : ∀ leaf ∈ sales.leaves, ∀ t ∈ leaf.value.rawTexts, t = users.sql := by decide
  have hsales : sales.Embeddable := by
    refine .intro (fun _ => users) rfl (by decide) (by decide) (by decide) ?_ fun _ _ _ _ => husers
    intro leaf hleaf t ht
    rw [hqueries leaf hleaf t ht]
    rfl
  exact ⟨(closed_of_embeddable hsales).1, rfl⟩

end Statement

end SqlCompose
