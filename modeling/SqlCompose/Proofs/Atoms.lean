import SqlCompose.Proofs.Symbols

/-!
# Texts that are one atom

What follows the first word of an atom belongs to the atom when it holds no keyword and when every
parenthesis in it is closed again. Inside a parenthesis keywords do not count.
-/

namespace SqlCompose.Boolean

open Text

/-- Behind the front of an atom the tokens become part of it. -/
def Absorbed (ts : List Token) : Prop :=
  ∀ atom rest, atom ≠ [] →
    symbolsFrom? atom 0 (ts ++ rest) = symbolsFrom? (atom ++ ts) 0 rest

lemma Absorbed.append {ts us : List Token} (ht : Absorbed ts) (hu : Absorbed us) :
    Absorbed (ts ++ us) := by
  intro atom rest hatom
  rw [List.append_assoc, ht _ _ hatom, hu _ _ (by simp [hatom]), List.append_assoc]

def isFlat (t : Token) : Bool :=
  (keyword? t).isNone && t ≠ .mark '(' && t ≠ .mark ')'

lemma absorbed_of_flat {ts : List Token} (h : ∀ t ∈ ts, isFlat t = true) : Absorbed ts := by
  intro atom rest hatom
  induction ts generalizing atom with
  | nil => simp
  | cons t ts ih =>
    have ht := h t (by simp)
    simp only [isFlat, Bool.and_eq_true, Option.isNone_iff_eq_none, decide_eq_true_eq] at ht
    obtain ⟨⟨hkey, hopen⟩, hclose⟩ := ht
    have hrest := ih (fun u hu => h u (List.mem_cons_of_mem t hu)) (atom ++ [t]) (by simp)
    rw [List.cons_append, symbolsFrom?_more _ hatom hkey hclose, if_neg hopen, hrest]
    simp

/-- The number of open parentheses behind tokens, if none is closed that was not opened. -/
def nest : Nat → List Token → Option Nat
  | d, [] => some d
  | d, t :: ts =>
    if t = .mark '(' then nest (d + 1) ts
    else if t = .mark ')' then
      match d with
      | 0 => none
      | d + 1 => nest d ts
    else nest d ts

lemma nest_append (d : Nat) (ts us : List Token) :
    nest d (ts ++ us) = (nest d ts).bind fun e => nest e us := by
  induction ts generalizing d with
  | nil => rfl
  | cons t ts ih =>
    simp only [List.cons_append, nest]
    split
    · exact ih _
    · split
      · cases d with
        | zero => rfl
        | succ d => exact ih d
      · exact ih d

lemma symbolsFrom?_of_nest {ts : List Token} {d e : Nat} (h : nest d ts = some e)
    (atom rest : List Token) :
    symbolsFrom? atom (d + 1) (ts ++ rest) = symbolsFrom? (atom ++ ts) (e + 1) rest := by
  -- The reader counts one parenthesis more than `nest`, the one that `ts` stands in.
  fun_induction nest d ts generalizing atom with
  | case1 d =>
    obtain rfl := Option.some.inj h
    rw [List.nil_append, List.append_nil]
  | case2 d ts ih =>
    rw [List.cons_append, symbolsFrom?, if_pos rfl, ih h, List.append_assoc, List.singleton_append]
  | case3 => contradiction
  | case4 ts d hopen ih =>
    rw [List.cons_append, symbolsFrom?, if_neg hopen, if_pos rfl, ih h, List.append_assoc,
      List.singleton_append]
  | case5 d t ts hopen hclose ih =>
    rw [List.cons_append, symbolsFrom?, if_neg hopen, if_neg hclose, ih h, List.append_assoc,
      List.singleton_append]

/-- A parenthesis inside an atom is part of it with all that stands in it. -/
lemma absorbed_group {ts : List Token} (h : nest 0 ts = some 0) :
    Absorbed (.mark '(' :: (ts ++ [.mark ')'])) := by
  intro atom rest hatom
  have hopen : ∀ us, symbolsFrom? atom 0 (.mark '(' :: us) =
      symbolsFrom? (atom ++ [.mark '(']) 1 us := by
    intro us
    rw [symbolsFrom?_more us hatom rfl (by simp), if_pos rfl]
  have hclose : ∀ atom, symbolsFrom? atom 1 (.mark ')' :: rest) =
      symbolsFrom? (atom ++ [.mark ')']) 0 rest := by
    intro atom
    rw [symbolsFrom?]
    simp
  rw [List.cons_append, List.append_assoc, hopen, symbolsFrom?_of_nest h, List.singleton_append,
    hclose]
  simp

/-- A piece as a mark of its own, whatever words it is part of. -/
def asMark : Piece → Token
  | .outside c => .mark c
  | .literal body => .literal body

lemma nest_consWord (d : Nat) (c : Char) (ts : List Token) : nest d (consWord c ts) = nest d ts := by
  rcases ts with _ | ⟨_ | _ | _, ts⟩ <;> simp [consWord, nest]

lemma nest_tokens (d : Nat) (ps : List Piece) : nest d (tokens ps) = nest d (ps.map asMark) := by
  induction ps generalizing d with
  | nil => rfl
  | cons p ps ih =>
    cases p with
    | literal body => simp [tokens, asMark, nest, ih]
    | outside c =>
      rw [tokens, List.map_cons, asMark]
      split
      · rename_i hword
        have hopen : c ≠ '(' := by
          rintro rfl
          contradiction
        have hclose : c ≠ ')' := by
          rintro rfl
          contradiction
        rw [nest_consWord, ih]
        simp [nest, hopen, hclose]
      · simp only [nest, ih]

/-- Every parenthesis of the text outside of literals has its counterpart. -/
def Balanced (s : String) : Prop :=
  ∃ ps, pieces? s = some ps ∧ ∀ d, nest d (ps.map asMark) = some d

namespace Balanced

lemma plain {s : String} (hquote : '\'' ∉ s.toList) (hopen : '(' ∉ s.toList)
    (hclose : ')' ∉ s.toList) : Balanced s := by
  refine ⟨_, pieces?_of_plain hquote, fun d => ?_⟩
  generalize s.toList = cs at hopen hclose ⊢
  induction cs with
  | nil => rfl
  | cons c cs ih =>
    rw [List.mem_cons, not_or] at hopen hclose
    have hc : c ≠ '(' := fun h => hopen.1 h.symm
    have hc' : c ≠ ')' := fun h => hclose.1 h.symm
    simp only [List.map_cons, asMark, nest, Token.mark.injEq, hc, hc', if_false]
    exact ih hopen.2 hclose.2

lemma constant {s : String} (h : s.toList.any (['\'', '(', ')'].contains ·) = false) :
    Balanced s := by
  have hnone : ∀ m ∈ ['\'', '(', ')'], m ∉ s.toList := by
    intro m hm hmem
    have hany := List.any_eq_false.1 h m hmem
    exact hany (List.contains_iff_mem.2 hm)
  exact plain (hnone _ (by simp)) (hnone _ (by simp)) (hnone _ (by simp))

lemma quoted (s : String) : Balanced (quoted true s) :=
  ⟨_, pieces?_quoted s, fun _ => rfl⟩

lemma append {s t : String} (hs : Balanced s) (ht : Balanced t) : Balanced (s ++ t) := by
  obtain ⟨ps, hps, hnest⟩ := hs
  obtain ⟨qs, hqs, hnest'⟩ := ht
  refine ⟨_, pieces?_append hps hqs, fun d => ?_⟩
  rw [List.map_append, nest_append, hnest, Option.bind_some, hnest']

lemma parens {s : String} (h : Balanced s) : Balanced ("(" ++ s ++ ")") := by
  obtain ⟨ps, hps, hnest⟩ := h
  refine ⟨_, pieces?_group hps, fun d => ?_⟩
  rw [List.map_append, List.map_append, nest_append, nest_append]
  have hopen : nest d ([.outside '('].map asMark) = some (d + 1) := rfl
  rw [hopen, Option.bind_some, hnest]
  rfl

lemma brackets {s : String} (h : Balanced s) : Balanced ("[" ++ s ++ "]") := by
  have hopen : Balanced "[" := .constant rfl
  have hclose : Balanced "]" := .constant rfl
  exact (hopen.append h).append hclose

end Balanced

/-- A text that can stand at the end of an atom. -/
def Quiet (s : String) : Prop :=
  ∃ ps, pieces? s = some ps ∧ Absorbed (tokens ps) ∧
    ∃ p, ps.getLast? = some p ∧ p ≠ .outside ' '

namespace Quiet

lemma flat {s : String} (hquote : '\'' ∉ s.toList)
    (hflat : ∀ t ∈ tokens (s.toList.map .outside), isFlat t = true) {c : Char}
    (hlast : s.toList.getLast? = some c) (hc : c ≠ ' ') : Quiet s := by
  refine ⟨_, pieces?_of_plain hquote, absorbed_of_flat hflat, .outside c, ?_, ?_⟩
  · rw [List.getLast?_map, hlast]
    rfl
  · simpa using hc

lemma quoted (s : String) : Quiet (quoted true s) := by
  refine ⟨_, pieces?_quoted s, absorbed_of_flat ?_, _, rfl, by simp⟩
  intro t ht
  obtain rfl := List.mem_singleton.1 ht
  simp [isFlat, keyword?]

lemma group {s : String} (h : Balanced s) : Quiet ("(" ++ s ++ ")") := by
  obtain ⟨ps, hps, hnest⟩ := h
  refine ⟨_, pieces?_group hps, ?_, .outside ')', ?_, ?_⟩
  · rw [tokens_group]
    exact absorbed_group (by rw [nest_tokens, hnest])
  · rw [List.getLast?_append]
    rfl
  · simp

lemma behind {front s : String} (hquote : '\'' ∉ front.toList)
    (hflat : ∀ t ∈ tokens (front.toList.map .outside), isFlat t = true)
    (hlast : ∀ c, front.toList.getLast? = some c → isWordChar c = false) (h : Quiet s) :
    Quiet (front ++ s) := by
  obtain ⟨ps, hps, habsorbed, p, hp, hblank⟩ := h
  have hseam : Seam (front.toList.map .outside) ps := by
    refine .inl fun c hc => hlast c ?_
    rw [List.getLast?_map, Option.map_eq_some_iff] at hc
    obtain ⟨d, hd, hdc⟩ := hc
    obtain rfl := Piece.outside.inj hdc
    exact hd
  refine ⟨_, pieces?_append (pieces?_of_plain hquote) hps, ?_, p, ?_, hblank⟩
  · rw [tokens_append hseam]
    exact (absorbed_of_flat hflat).append habsorbed
  · rw [List.getLast?_append, hp]
    rfl

end Quiet

/-- What may stand behind a formula: the end, a closing parenthesis, or a keyword behind a blank. -/
def Stops (rest : List Token) : Prop :=
  rest = [] ∨ (∃ ts, rest = .mark ')' :: ts) ∨
    ∃ k s ts, rest = .mark ' ' :: k :: ts ∧ keyword? k = some s

/-- The text is read as the symbols, wherever a formula may stand. -/
def Spells (t : String) (ss : List Symbol) : Prop :=
  ∃ ps, pieces? t = some ps ∧ ∀ rest, Stops rest →
    symbolsFrom? [] 0 (tokens ps ++ rest) = (symbolsFrom? [] 0 rest).map (ss ++ ·)

lemma Spells.symbols? {t : String} {ss : List Symbol} (h : Spells t ss) : symbols? t = some ss := by
  obtain ⟨ps, hps, hread⟩ := h
  have hend := hread [] (.inl rfl)
  rw [List.append_nil] at hend
  rw [Boolean.symbols?, hps, Option.bind_some, hend]
  simp [symbolsFrom?, flush_nil]

lemma trimmed_of_getLast? {ts : List Token} (h : ts.getLast? ≠ some (.mark ' ')) :
    trimmed ts = ts := by
  rw [trimmed]
  cases hrev : ts.reverse with
  | nil => simpa using hrev.symm
  | cons t us =>
    have hts : ts = us.reverse ++ [t] := by
      rw [← List.reverse_reverse ts, hrev, List.reverse_cons]
    have ht : t ≠ .mark ' ' := by
      rintro rfl
      simp [hts] at h
    rw [List.dropWhile_cons, if_neg (by simpa using ht), ← hrev, List.reverse_reverse]

lemma trimmed_append_blank (ts : List Token) : trimmed (ts ++ [.mark ' ']) = trimmed ts := by
  simp [trimmed]

lemma symbolsFrom?_atom {ts rest : List Token} (hne : ts ≠ [])
    (hlast : ts.getLast? ≠ some (.mark ' ')) (hrest : Stops rest) :
    symbolsFrom? ts 0 rest =
      (symbolsFrom? [] 0 rest).map
        ([.atom (String.ofList (ts.flatMap Token.text))] ++ ·) := by
  have hflush : flush ts = [.atom (String.ofList (ts.flatMap Token.text))] := by
    rw [flush, trimmed_of_getLast? hlast, if_neg hne]
  have hflush' : flush (ts ++ [.mark ' ']) = flush ts := by
    rw [flush, trimmed_append_blank, flush]
  rcases hrest with rfl | ⟨us, rfl⟩ | ⟨k, s, us, rfl, hk⟩
  · simp [symbolsFrom?, hflush, flush_nil]
  · rw [symbolsFrom?_closing, symbolsFrom?_closing, hflush, flush_nil]
    simp [Function.comp_def]
  · rw [symbolsFrom?_more _ hne rfl (by simp), if_neg (by simp), symbolsFrom?_keyword _ hk,
      symbolsFrom?_blank, symbolsFrom?_keyword _ hk, hflush', hflush, flush_nil]
    simp [Function.comp_def]

lemma getLast?_consWord {c : Char} {ts : List Token}
    (h : (consWord c ts).getLast? = some (.mark ' ')) : ts.getLast? = some (.mark ' ') := by
  rcases ts with _ | ⟨w | body | d, _ | ⟨u, us⟩⟩ <;> simp_all [consWord]

lemma getLast?_tokens_cons {p q : Piece} {qs : List Piece}
    (h : (tokens (p :: q :: qs)).getLast? = some (.mark ' ')) :
    (tokens (q :: qs)).getLast? = some (.mark ' ') := by
  obtain ⟨u, us, hus⟩ := List.exists_cons_of_ne_nil (tokens_ne_nil (List.cons_ne_nil q qs))
  cases p with
  | literal body => rwa [tokens, hus, List.getLast?_cons_cons, ← hus] at h
  | outside c =>
    rw [tokens] at h
    split at h
    · exact getLast?_consWord h
    · rwa [hus, List.getLast?_cons_cons, ← hus] at h

lemma getLast?_tokens {ps : List Piece} (h : (tokens ps).getLast? = some (.mark ' ')) :
    ps.getLast? = some (.outside ' ') := by
  induction ps with
  | nil => simp [tokens] at h
  | cons p ps ih =>
    rcases ps with _ | ⟨q, qs⟩
    · cases p with
      | literal body => simp [tokens] at h
      | outside c =>
        rw [tokens] at h
        split at h
        · simp [tokens, consWord] at h
        · simpa [tokens] using h
    · rw [List.getLast?_cons_cons]
      exact ih (getLast?_tokens_cons h)

lemma outside_of_pieces? {s : String} {c : Char} {cs : List Char} (hs : s.toList = c :: cs)
    (hc : c ≠ '\'') {ps : List Piece} (h : pieces? s = some ps) : ps.head? = some (.outside c) := by
  rw [pieces?, hs, piecesFrom?, if_neg hc] at h
  obtain ⟨rest, -, rfl⟩ := Option.map_eq_some_iff.1 h
  rfl

/-- A word that is no keyword and a quiet text behind it are one atom. -/
theorem spells_atom {w s : String} (hne : w.toList ≠ []) (hw : w.toList.all isWordChar = true)
    (hkey : keyword? (.word w.toList) = none) (hs : Quiet s) {c : Char} {cs : List Char}
    (hfront : s.toList = c :: cs) (hquote : c ≠ '\'') (hc : isWordChar c = false) :
    Spells (w ++ s) [.atom (w ++ s)] := by
  obtain ⟨ps, hps, habsorbed, p, hp, hblank⟩ := hs
  have hplain : '\'' ∉ w.toList := by
    intro h
    have hword := List.all_eq_true.1 hw _ h
    exact absurd hword (by decide)
  have hpieces := pieces?_append (pieces?_of_plain hplain) hps
  have hseam : Seam (w.toList.map .outside) ps := by
    refine .inr fun d hd => ?_
    rw [outside_of_pieces? hfront hquote hps] at hd
    obtain rfl := Piece.outside.inj (Option.some.inj hd)
    exact hc
  have htokens : tokens (w.toList.map .outside ++ ps) = .word w.toList :: tokens ps := by
    rw [tokens_append hseam, tokens_word hne hw, List.singleton_append]
  refine ⟨_, hpieces, fun rest hrest => ?_⟩
  have hlast : (.word w.toList :: tokens ps).getLast? ≠ some (.mark ' ') := by
    intro h
    rw [← htokens] at h
    have hpiece := getLast?_tokens h
    rw [List.getLast?_append, hp, Option.some_or, Option.some.injEq] at hpiece
    exact hblank hpiece
  have htext : String.ofList ((.word w.toList :: tokens ps).flatMap Token.text) = w ++ s := by
    rw [← htokens, text_tokens, flatMap_text_of_pieces? hpieces, String.ofList_toList]
  rw [htokens, List.cons_append, symbolsFrom?_first _ hkey (by simp) (by simp) (by simp),
    habsorbed _ _ (by simp), List.singleton_append, symbolsFrom?_atom (by simp) hlast hrest, htext]

end SqlCompose.Boolean
