import SqlCompose.Proofs.Atoms

/-!
# The meaning of a text

A text means a function of the truth of its atoms when it is read as symbols and the symbols as a
formula with that value. The ways in which texts are put together are the rules of the grammar.
-/

namespace SqlCompose.Boolean

open Text

section spells

variable {t u : String} {ss rs : List Symbol}

lemma Spells.parens (h : Spells t ss) :
    Spells ("(" ++ t ++ ")") (.opening :: (ss ++ [.closing])) := by
  obtain ⟨ps, hps, hread⟩ := h
  refine ⟨_, pieces?_group hps, fun rest _ => ?_⟩
  have hstops : Stops (.mark ')' :: rest) := .inr (.inl ⟨rest, rfl⟩)
  rw [tokens_group, List.cons_append, List.append_assoc, List.singleton_append,
    symbolsFrom?_opening, hread _ hstops, symbolsFrom?_closing, flush_nil]
  simp [Function.comp_def]

variable {w : String} {s : Symbol}

lemma tokens_keyword (hw : w.toList.all isWordChar = true)
    (hkey : keyword? (.word w.toList) = some s) {ps : List Piece} (h : pieces? t = some ps) :
    ∃ qs, pieces? (w ++ " " ++ t) = some qs ∧
      tokens qs = .word w.toList :: .mark ' ' :: tokens ps := by
  have hne : w.toList ≠ [] := by
    intro hnil
    rw [hnil] at hkey
    contradiction
  have hplain : '\'' ∉ w.toList := by
    intro hmem
    have hword := List.all_eq_true.1 hw _ hmem
    exact absurd hword (by decide)
  have hblank : pieces? " " = some [.outside ' '] := rfl
  refine ⟨_, pieces?_append (pieces?_append (pieces?_of_plain hplain) hblank) h, ?_⟩
  rw [List.append_assoc, List.singleton_append, tokens_blank, tokens_word hne hw]
  rfl

lemma Spells.behind (hw : w.toList.all isWordChar = true)
    (hkey : keyword? (.word w.toList) = some s) (h : Spells t ss) :
    Spells (w ++ " " ++ t) (s :: ss) := by
  obtain ⟨ps, hps, hread⟩ := h
  obtain ⟨qs, hqs, htokens⟩ := tokens_keyword hw hkey hps
  refine ⟨qs, hqs, fun rest hrest => ?_⟩
  rw [htokens, List.cons_append, List.cons_append, symbolsFrom?_keyword _ hkey,
    symbolsFrom?_blank, hread _ hrest, flush_nil]
  simp [Function.comp_def]

lemma Spells.between (hw : w.toList.all isWordChar = true)
    (hkey : keyword? (.word w.toList) = some s) (ht : Spells t ss) (hu : Spells u rs) :
    Spells (t ++ (" " ++ w ++ " ") ++ u) (ss ++ s :: rs) := by
  obtain ⟨ps, hps, hread⟩ := ht
  obtain ⟨us, hus, hread'⟩ := hu
  obtain ⟨qs, hqs, htokens⟩ := tokens_keyword hw hkey hus
  have hblank : pieces? " " = some [.outside ' '] := rfl
  have htext : t ++ (" " ++ w ++ " ") ++ u = t ++ " " ++ (w ++ " " ++ u) := by
    simp only [String.append_assoc]
  refine ⟨ps ++ [.outside ' '] ++ qs, ?_, fun rest hrest => ?_⟩
  · rw [htext, pieces?_append (pieces?_append hps hblank) hqs]
  · have hstops : Stops (.mark ' ' :: .word w.toList :: .mark ' ' :: (tokens us ++ rest)) :=
      .inr (.inr ⟨_, s, _, rfl, hkey⟩)
    rw [List.append_assoc, List.singleton_append, tokens_blank, htokens, List.append_assoc,
      List.cons_append, List.cons_append, List.cons_append, hread _ hstops, symbolsFrom?_blank,
      symbolsFrom?_keyword _ hkey, symbolsFrom?_blank, hread' _ hrest, flush_nil]
    simp [Function.comp_def]

end spells

/-- The text is read as one formula of a rank, and the formula has this value. -/
def Means (rank : Rank) (t : String) (value : (String → Bool) → Bool) : Prop :=
  ∃ ss f, Spells t ss ∧ Reads rank ss f ∧ ∀ ρ, f.eval ρ = value ρ

namespace Means

variable {t u : String} {v w : (String → Bool) → Bool}

lemma conjunction (h : Means .factor t v) : Means .conjunction t v := by
  obtain ⟨ss, f, hspells, hreads, hvalue⟩ := h
  exact ⟨ss, f, hspells, .factor hreads, hvalue⟩

lemma disjunction (h : Means .conjunction t v) : Means .disjunction t v := by
  obtain ⟨ss, f, hspells, hreads, hvalue⟩ := h
  exact ⟨ss, f, hspells, .conjunction hreads, hvalue⟩

lemma parens (h : Means .disjunction t v) : Means .factor ("(" ++ t ++ ")") v := by
  obtain ⟨ss, f, hspells, hreads, hvalue⟩ := h
  exact ⟨_, f, hspells.parens, .parens hreads, hvalue⟩

lemma not (h : Means .factor t v) : Means .factor ("NOT " ++ t) fun ρ => !v ρ := by
  obtain ⟨ss, f, hspells, hreads, hvalue⟩ := h
  refine ⟨_, .not f, Spells.behind (w := "NOT") (by decide) rfl hspells, .not hreads, fun ρ => ?_⟩
  rw [Formula.eval, hvalue]

lemma and (ht : Means .conjunction t v) (hu : Means .factor u w) :
    Means .conjunction (t ++ " AND " ++ u) fun ρ => v ρ && w ρ := by
  obtain ⟨ss, f, hspells, hreads, hvalue⟩ := ht
  obtain ⟨rs, g, hspells', hreads', hvalue'⟩ := hu
  refine ⟨_, .and f g, Spells.between (w := "AND") (by decide) rfl hspells hspells',
    .and hreads hreads', fun ρ => ?_⟩
  rw [Formula.eval, hvalue, hvalue']

lemma or (ht : Means .disjunction t v) (hu : Means .conjunction u w) :
    Means .disjunction (t ++ " OR " ++ u) fun ρ => v ρ || w ρ := by
  obtain ⟨ss, f, hspells, hreads, hvalue⟩ := ht
  obtain ⟨rs, g, hspells', hreads', hvalue'⟩ := hu
  refine ⟨_, .or f g, Spells.between (w := "OR") (by decide) rfl hspells hspells',
    .or hreads hreads', fun ρ => ?_⟩
  rw [Formula.eval, hvalue, hvalue']

lemma intercalate_merge (sep t u : String) (us : List String) :
    sep.intercalate (t :: u :: us) = sep.intercalate ((t ++ sep ++ u) :: us) := by
  cases us <;> simp [String.intercalate_cons_cons, String.append_assoc]

section lists

variable {α : Type} {f : α → String} {g : α → (String → Bool) → Bool} {items : List α}

lemma all (ht : Means .conjunction t v) (h : ∀ a ∈ items, Means .factor (f a) (g a)) :
    Means .conjunction (" AND ".intercalate (t :: items.map f)) fun ρ =>
      v ρ && items.all fun a => g a ρ := by
  -- The grammar nests to the left: what was read so far is `t`, and each factor extends it.
  induction items generalizing t v with
  | nil => simpa using ht
  | cons a items ih =>
    have hfirst := ht.and (h a (by simp))
    have hrest := ih hfirst fun b hb => h b (List.mem_cons_of_mem a hb)
    simpa [intercalate_merge, Bool.and_assoc] using hrest

lemma any (ht : Means .disjunction t v) (h : ∀ a ∈ items, Means .factor (f a) (g a)) :
    Means .disjunction (" OR ".intercalate (t :: items.map f)) fun ρ =>
      v ρ || items.any fun a => g a ρ := by
  induction items generalizing t v with
  | nil => simpa using ht
  | cons a items ih =>
    have hfirst := ht.or (h a (by simp)).conjunction
    have hrest := ih hfirst fun b hb => h b (List.mem_cons_of_mem a hb)
    simpa [intercalate_merge, Bool.or_assoc] using hrest

end lists

end Means

/-- The text is one atom with a truth of its own. -/
def IsAtom (t : String) : Prop :=
  Means .factor t fun ρ => ρ t

/-- A word that is no keyword, and a quiet text behind it, are one atom. A digit in front is left
out, as in the comparisons of constants. -/
lemma isAtom_append {w s : String} {c : Char} {cs : List Char} (hword : w.toList = c :: cs)
    (hletter : c.isDigit = false) (hw : w.toList.all isWordChar = true)
    (hkey : keyword? (.word w.toList) = none) (hs : Quiet s) {d : Char} {ds : List Char}
    (hfront : s.toList = d :: ds) (hquote : d ≠ '\'') (hd : isWordChar d = false) :
    IsAtom (w ++ s) := by
  have hspells := spells_atom (by simp [hword]) hw hkey hs hfront hquote hd
  refine ⟨_, _, hspells, .atom (w ++ s), fun ρ => ?_⟩
  have hne : ∀ t, (t.toList.head?.any Char.isDigit) = true → w ++ s ≠ t := by
    rintro t ht rfl
    rw [String.toList_append, hword] at ht
    simp [hletter] at ht
  rw [Formula.eval, if_neg (hne "1 = 1" rfl), if_neg (hne "1 = 0" rfl)]

lemma means_true : Means .factor "1 = 1" fun _ => true := by
  have hquiet : Quiet " = 1" := .flat (by decide) (by decide) (c := '1') rfl (by decide)
  have hspells := spells_atom (w := "1") (by decide) (by decide) rfl hquiet rfl (by decide) rfl
  exact ⟨_, _, hspells, .atom _, fun ρ => rfl⟩

lemma means_false : Means .factor "1 = 0" fun _ => false := by
  have hquiet : Quiet " = 0" := .flat (by decide) (by decide) (c := '0') rfl (by decide)
  have hspells := spells_atom (w := "1") (by decide) (by decide) rfl hquiet rfl (by decide) rfl
  exact ⟨_, _, hspells, .atom _, fun ρ => rfl⟩

/-- The text has exactly one reading in the grammar, and its formula has this value. -/
def ReadsAs (t : String) (value : (String → Bool) → Bool) : Prop :=
  ∃ ss f, symbols? t = some ss ∧ Reads .disjunction ss f ∧
    (∀ g, Reads .disjunction ss g → g = f) ∧ ∀ ρ, f.eval ρ = value ρ

lemma Means.readsAs {t : String} {v : (String → Bool) → Bool} (h : Means .factor t v) :
    ReadsAs t v := by
  obtain ⟨ss, f, hspells, hreads, hvalue⟩ := h.conjunction.disjunction
  exact ⟨ss, f, hspells.symbols?, hreads, fun g hg => hg.unique hreads, hvalue⟩

end SqlCompose.Boolean
