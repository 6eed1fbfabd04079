import SqlCompose.Proofs.Grammar
import SqlCompose.Proofs.Literals

/-!
# Reading a text as symbols

A text is read as words, literals and single marks, and these as the symbols of the grammar. An atom
goes on up to the next keyword or closing parenthesis, and a parenthesis inside it is part of it
with all that stands in it.
-/

namespace SqlCompose.Boolean

open Text

inductive Token where
  | word (w : List Char)
  | literal (body : List Char)
  | mark (c : Char)
deriving DecidableEq

def isWordChar (c : Char) : Bool :=
  c.isAlphanum || c = '_' || c = '.'

def consWord (c : Char) : List Token → List Token
  | .word w :: ts => .word (c :: w) :: ts
  | ts => .word [c] :: ts

/-- The tokens of pieces; words are as long as possible. -/
def tokens : List Piece → List Token
  | [] => []
  | .literal body :: ps => .literal body :: tokens ps
  | .outside c :: ps => if isWordChar c then consWord c (tokens ps) else .mark c :: tokens ps

def Token.text : Token → List Char
  | word w => w
  | literal body => '\'' :: body ++ ['\'']
  | mark c => [c]

/-- The words of the grammar, in any letter case. -/
def keyword? : Token → Option Symbol
  | .word w =>
    if w.map Char.toUpper = ['A', 'N', 'D'] then some .and
    else if w.map Char.toUpper = ['O', 'R'] then some .or
    else if w.map Char.toUpper = ['N', 'O', 'T'] then some .not
    else none
  | _ => none

def trimmed (ts : List Token) : List Token :=
  (ts.reverse.dropWhile (· = .mark ' ')).reverse

/-- The atom of collected tokens, if there are any. -/
def flush (atom : List Token) : List Symbol :=
  if trimmed atom = [] then []
  else [.atom (String.ofList ((trimmed atom).flatMap Token.text))]

/-- The symbols of tokens, behind the tokens of an atom with a number of open parentheses in it. -/
def symbolsFrom? : List Token → Nat → List Token → Option (List Symbol)
  | atom, 0, [] => some (flush atom)
  | _, _ + 1, [] => none
  | atom, 0, t :: ts =>
    match keyword? t with
    | some s => (symbolsFrom? [] 0 ts).map (flush atom ++ s :: ·)
    | none =>
      if t = .mark ')' then (symbolsFrom? [] 0 ts).map (flush atom ++ .closing :: ·)
      else if atom = [] then
        if t = .mark '(' then (symbolsFrom? [] 0 ts).map (.opening :: ·)
        else if t = .mark ' ' then symbolsFrom? [] 0 ts
        else symbolsFrom? [t] 0 ts
      else symbolsFrom? (atom ++ [t]) (if t = .mark '(' then 1 else 0) ts
  | atom, d + 1, t :: ts =>
    symbolsFrom? (atom ++ [t])
      (if t = .mark '(' then d + 2 else if t = .mark ')' then d else d + 1) ts

/-- The symbols of a text, if its literals and the parentheses in its atoms are closed. -/
def symbols? (s : String) : Option (List Symbol) :=
  (pieces? s).bind fun ps => symbolsFrom? [] 0 (tokens ps)

section tokens

/-- No word goes on from one list of pieces into the other. -/
def Seam (ps qs : List Piece) : Prop :=
  (∀ c, ps.getLast? = some (.outside c) → isWordChar c = false) ∨
    ∀ c, qs.head? = some (.outside c) → isWordChar c = false

lemma consWord_append (c : Char) {ts : List Token} (h : ts ≠ []) (us : List Token) :
    consWord c (ts ++ us) = consWord c ts ++ us := by
  rcases ts with _ | ⟨_ | _ | _, ts⟩
  · contradiction
  all_goals rfl

lemma tokens_ne_nil {ps : List Piece} (h : ps ≠ []) : tokens ps ≠ [] := by
  rcases ps with _ | ⟨c | body, ps⟩
  · contradiction
  · rw [tokens]
    split
    · rcases tokens ps with _ | ⟨_ | _ | _, ts⟩ <;> simp [consWord]
    · simp
  · simp [tokens]

lemma tokens_append {ps qs : List Piece} (h : Seam ps qs) :
    tokens (ps ++ qs) = tokens ps ++ tokens qs := by
  -- The seam matters only at the last piece of `ps`, so the step hands it on.
  induction ps with
  | nil => rfl
  | cons p ps ih =>
    cases ps with
    | nil =>
      cases p with
      | literal body => rfl
      | outside c =>
        by_cases hc : isWordChar c = true
        · rcases h with h | h
          · rw [h c rfl] at hc
            contradiction
          · rcases qs with _ | ⟨d | body, qs⟩
            · simp [tokens]
            · have hd := h d rfl
              simp [tokens, hc, hd, consWord]
            · simp [tokens, hc, consWord]
        · simp [tokens, hc]
    | cons p' ps =>
      have hseam : Seam (p' :: ps) qs := by
        rcases h with h | h
        · exact .inl fun c hc => h c (by simpa using hc)
        · exact .inr h
      have hrest := ih hseam
      cases p with
      | literal body =>
        rw [List.cons_append, tokens, hrest, tokens, List.cons_append]
      | outside c =>
        rw [List.cons_append, tokens, hrest, tokens]
        split
        · exact consWord_append c (tokens_ne_nil (by simp)) _
        · rfl

lemma tokens_word {w : List Char} (hne : w ≠ []) (hw : w.all isWordChar = true) :
    tokens (w.map .outside) = [.word w] := by
  induction w with
  | nil => contradiction
  | cons c w ih =>
    rw [List.all_cons, Bool.and_eq_true] at hw
    obtain ⟨hc, hrest⟩ := hw
    cases w with
    | nil => simp [tokens, hc, consWord]
    | cons d w => rw [List.map_cons, tokens, if_pos hc, ih (by simp) hrest, consWord]

lemma pieces?_group {s : String} {ps : List Piece} (h : pieces? s = some ps) :
    pieces? ("(" ++ s ++ ")") = some ([.outside '('] ++ ps ++ [.outside ')']) := by
  have hopen : pieces? "(" = some [.outside '('] := rfl
  have hclose : pieces? ")" = some [.outside ')'] := rfl
  exact pieces?_append (pieces?_append hopen h) hclose

lemma tokens_group (ps : List Piece) :
    tokens ([.outside '('] ++ ps ++ [.outside ')']) = .mark '(' :: (tokens ps ++ [.mark ')']) := by
  have hseam : Seam ps [.outside ')'] := by
    refine .inr fun c hc => ?_
    obtain rfl : ')' = c := by simpa using hc
    rfl
  have hopen : isWordChar '(' = false := rfl
  have hclose : isWordChar ')' = false := rfl
  rw [List.append_assoc, List.singleton_append, tokens, hopen, tokens_append hseam, tokens, hclose]
  rfl

/-- Every word ends at a blank. -/
lemma tokens_blank (ps qs : List Piece) :
    tokens (ps ++ .outside ' ' :: qs) = tokens ps ++ .mark ' ' :: tokens qs := by
  have hseam : Seam ps (.outside ' ' :: qs) := by
    refine .inr fun c hc => ?_
    obtain rfl : ' ' = c := by simpa using hc
    rfl
  have hblank : isWordChar ' ' = false := rfl
  rw [tokens_append hseam, tokens, hblank]
  rfl

lemma text_consWord (c : Char) (ts : List Token) :
    (consWord c ts).flatMap Token.text = c :: ts.flatMap Token.text := by
  rcases ts with _ | ⟨_ | _ | _, ts⟩ <;> simp [consWord, Token.text]

lemma text_tokens (ps : List Piece) :
    (tokens ps).flatMap Token.text = ps.flatMap Piece.text := by
  induction ps with
  | nil => rfl
  | cons p ps ih =>
    cases p with
    | literal body => simp [tokens, Token.text, Piece.text, ih]
    | outside c =>
      rw [tokens]
      split
      · simp [text_consWord, Piece.text, ih]
      · simp [Token.text, Piece.text, ih]

end tokens

lemma keyword?_mark (c : Char) : keyword? (.mark c) = none :=
  rfl

section symbols

variable {atom : List Token} {t : Token} {s : Symbol} (ts : List Token)

lemma symbolsFrom?_keyword (h : keyword? t = some s) :
    symbolsFrom? atom 0 (t :: ts) = (symbolsFrom? [] 0 ts).map (flush atom ++ s :: ·) := by
  rw [symbolsFrom?, h]

lemma symbolsFrom?_closing :
    symbolsFrom? atom 0 (.mark ')' :: ts) =
      (symbolsFrom? [] 0 ts).map (flush atom ++ .closing :: ·) := by
  rw [symbolsFrom?, keyword?_mark]
  rfl

lemma symbolsFrom?_opening :
    symbolsFrom? [] 0 (.mark '(' :: ts) = (symbolsFrom? [] 0 ts).map (.opening :: ·) := by
  rw [symbolsFrom?, keyword?_mark]
  rfl

lemma symbolsFrom?_blank : symbolsFrom? [] 0 (.mark ' ' :: ts) = symbolsFrom? [] 0 ts := by
  rw [symbolsFrom?, keyword?_mark]
  rfl

/-- A token without a meaning of its own goes on with the atom. -/
lemma symbolsFrom?_more (hatom : atom ≠ []) (hkey : keyword? t = none) (hclose : t ≠ .mark ')') :
    symbolsFrom? atom 0 (t :: ts) =
      symbolsFrom? (atom ++ [t]) (if t = .mark '(' then 1 else 0) ts := by
  rw [symbolsFrom?, hkey]
  simp only [if_neg hatom, if_neg hclose]

lemma symbolsFrom?_first (hkey : keyword? t = none) (hopen : t ≠ .mark '(')
    (hclose : t ≠ .mark ')') (hblank : t ≠ .mark ' ') :
    symbolsFrom? [] 0 (t :: ts) = symbolsFrom? [t] 0 ts := by
  rw [symbolsFrom?, hkey]
  simp only [if_neg hopen, if_neg hclose, if_neg hblank, if_true]

lemma flush_nil : flush [] = [] :=
  rfl

end symbols

end SqlCompose.Boolean
