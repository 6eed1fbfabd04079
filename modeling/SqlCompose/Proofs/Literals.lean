import Mathlib.Tactic.Lemma
import SqlCompose.Text.Quoted

/-!
# Cutting a text at its literals

A text is cut into the characters outside of single-quoted literals and the bodies of the literals.
A backslash inside a literal takes the next character literally, and a quote without one ends it.
-/

namespace SqlCompose.Text

/-- A character outside of literals, or the body of a literal as it is written. -/
inductive Piece where
  | outside (c : Char)
  | literal (body : List Char)

/-- Where a scan stands: outside, behind the front of a literal, or behind a backslash in one. -/
inductive Place where
  | outside
  | inside (body : List Char)
  | escaped (body : List Char)

/-- The pieces of a text from a place on, if the text does not end inside a literal. -/
def piecesFrom? : Place → List Char → Option (List Piece)
  | .outside, [] => some []
  | .outside, c :: cs =>
    if c = '\'' then piecesFrom? (.inside []) cs
    else (piecesFrom? .outside cs).map (.outside c :: ·)
  | .inside body, c :: cs =>
    if c = '\'' then (piecesFrom? .outside cs).map (.literal body :: ·)
    else if c = '\\' then piecesFrom? (.escaped body) cs
    else piecesFrom? (.inside (body ++ [c])) cs
  | .escaped body, c :: cs => piecesFrom? (.inside (body ++ ['\\', c])) cs
  | .inside _, [] => none
  | .escaped _, [] => none

/-- The pieces of a text, if it ends outside of literals. -/
def pieces? (s : String) : Option (List Piece) :=
  piecesFrom? .outside s.toList

/-- The text that the body of a literal stands for. -/
def decode : List Char → List Char
  | [] => []
  | [c] => [c]
  | c :: d :: cs => if c = '\\' then d :: decode cs else c :: decode (d :: cs)

def Piece.text : Piece → List Char
  | outside c => [c]
  | literal body => '\'' :: body ++ ['\'']

/-- The text in front of a place that belongs to the literal in which it stands. -/
def Place.text : Place → List Char
  | outside => []
  | inside body => '\'' :: body
  | escaped body => '\'' :: body ++ ['\\']

/-- The piece with an empty body, if it is a literal. -/
def Piece.hollow : Piece → Piece
  | outside c => outside c
  | literal _ => literal []

def Piece.content? : Piece → Option String
  | outside _ => none
  | literal body => some (String.ofList (decode body))

/-- What the literals stand for, in order. -/
def contents (ps : List Piece) : List String :=
  ps.filterMap Piece.content?

def consFirst (c : Char) : List (List Char) → List (List Char)
  | [] => [[c]]
  | t :: ts => (c :: t) :: ts

/-- The texts before, between and behind the literals. -/
def outsideTexts : List Piece → List (List Char)
  | [] => [[]]
  | .outside c :: ps => consFirst c (outsideTexts ps)
  | .literal _ :: ps => [] :: outsideTexts ps

section pieces

lemma piecesFrom?_append {p : Place} {a : List Char} {ps : List Piece}
    (h : piecesFrom? p a = some ps) (b : List Char) :
    piecesFrom? p (a ++ b) = (piecesFrom? .outside b).map (ps ++ ·) := by
  -- By `h` the scan of `a` ends outside, where the scan of `b` begins.
  fun_induction piecesFrom? p a generalizing ps with
  | case1 =>
    obtain rfl := Option.some.inj h
    simp
  | case2 cs ih => rw [List.cons_append, piecesFrom?, if_pos rfl, ih h]
  | case3 c cs hc ih =>
    obtain ⟨rest, hrest, rfl⟩ := Option.map_eq_some_iff.1 h
    rw [List.cons_append, piecesFrom?, if_neg hc, ih hrest]
    simp [Function.comp_def]
  | case4 body cs ih =>
    obtain ⟨rest, hrest, rfl⟩ := Option.map_eq_some_iff.1 h
    rw [List.cons_append, piecesFrom?, if_pos rfl, ih hrest]
    simp [Function.comp_def]
  | case5 body cs hc ih => rw [List.cons_append, piecesFrom?, if_neg hc, if_pos rfl, ih h]
  | case6 body c cs hc hc' ih => rw [List.cons_append, piecesFrom?, if_neg hc, if_neg hc', ih h]
  | case7 body c cs ih => rw [List.cons_append, piecesFrom?, ih h]
  | case8 => contradiction
  | case9 => contradiction

theorem pieces?_append {a b : String} {ps qs : List Piece} (ha : pieces? a = some ps)
    (hb : pieces? b = some qs) : pieces? (a ++ b) = some (ps ++ qs) := by
  rw [pieces?, String.toList_append, piecesFrom?_append ha, ← pieces?, hb]
  rfl

theorem pieces?_of_plain {s : String} (h : '\'' ∉ s.toList) :
    pieces? s = some (s.toList.map .outside) := by
  rw [pieces?]
  generalize s.toList = cs at h ⊢
  induction cs with
  | nil => rfl
  | cons c cs ih =>
    rw [List.mem_cons, not_or] at h
    simp [piecesFrom?, Ne.symm h.1, ih h.2]

lemma piecesFrom?_inside_escaped (body cs : List Char) :
    piecesFrom? (.inside body) (cs.flatMap escapeChar ++ ['\'']) =
      some [.literal (body ++ cs.flatMap escapeChar)] := by
  induction cs generalizing body with
  | nil => simp [piecesFrom?]
  | cons c cs ih =>
    by_cases hslash : c = '\\'
    · subst hslash
      simp [escapeChar, piecesFrom?, ih]
    by_cases hquote : c = '\''
    · subst hquote
      simp [escapeChar, piecesFrom?, ih]
    simp [escapeChar, piecesFrom?, hslash, hquote, ih]

/-- An escaped literal is one piece, whatever its text is. -/
theorem pieces?_quoted (s : String) :
    pieces? (quoted true s) = some [.literal (s.toList.flatMap escapeChar)] := by
  have htext : (quoted true s).toList = '\'' :: (s.toList.flatMap escapeChar ++ ['\'']) := by
    simp [quoted, String.toList_append]
  rw [pieces?, htext, piecesFrom?, if_pos rfl, piecesFrom?_inside_escaped, List.nil_append]

lemma flatMap_text_of_piecesFrom? {p : Place} {cs : List Char} {ps : List Piece}
    (h : piecesFrom? p cs = some ps) : ps.flatMap Piece.text = p.text ++ cs := by
  fun_induction piecesFrom? p cs generalizing ps with
  | case1 =>
    obtain rfl := Option.some.inj h
    rfl
  | case2 cs ih => rw [ih h]; rfl
  | case3 c cs hc ih =>
    obtain ⟨rest, hrest, rfl⟩ := Option.map_eq_some_iff.1 h
    rw [List.flatMap_cons, ih hrest]
    rfl
  | case4 body cs ih =>
    obtain ⟨rest, hrest, rfl⟩ := Option.map_eq_some_iff.1 h
    rw [List.flatMap_cons, ih hrest]
    simp [Piece.text, Place.text]
  | case5 body cs hc ih =>
    rw [ih h]
    simp [Place.text]
  | case6 body c cs hc hc' ih =>
    rw [ih h]
    simp [Place.text]
  | case7 body c cs ih =>
    rw [ih h]
    simp [Place.text]
  | case8 => contradiction
  | case9 => contradiction

/-- Nothing is lost when a text is cut. -/
theorem flatMap_text_of_pieces? {s : String} {ps : List Piece} (h : pieces? s = some ps) :
    ps.flatMap Piece.text = s.toList :=
  flatMap_text_of_piecesFrom? h

end pieces

lemma decode_cons_of_ne {c : Char} (h : c ≠ '\\') (cs : List Char) :
    decode (c :: cs) = c :: decode cs := by
  cases cs with
  | nil => simp [decode]
  | cons d cs => rw [decode, if_neg h]

/-- The body of an escaped literal stands for the text that was escaped. -/
theorem decode_flatMap_escapeChar (cs : List Char) : decode (cs.flatMap escapeChar) = cs := by
  induction cs with
  | nil => rfl
  | cons c cs ih =>
    by_cases hspecial : c = '\\' ∨ c = '\''
    · rw [List.flatMap_cons, escapeChar, if_pos hspecial]
      simp [decode, ih]
    · rw [List.flatMap_cons, escapeChar, if_neg hspecial, List.singleton_append,
        decode_cons_of_ne (fun h => hspecial (.inl h)), ih]

/-- A text without backslashes and quotes is its own escaped form. -/
lemma quoted_of_plain {s : String} (hslash : '\\' ∉ s.toList) (hquote : '\'' ∉ s.toList)
    (escaping : Bool) : quoted escaping s = quoted true s := by
  have hchars : s.toList.flatMap escapeChar = s.toList := by
    generalize s.toList = cs at hslash hquote ⊢
    induction cs with
    | nil => rfl
    | cons c cs ih =>
      rw [List.mem_cons, not_or] at hslash hquote
      simp [escapeChar, Ne.symm hslash.1, Ne.symm hquote.1, ih hslash.2 hquote.2]
  have hescape : escape s = s := by
    rw [escape, hchars, String.ofList_toList]
  cases escaping <;> simp [quoted, hescape]

lemma outsideTexts_map_hollow (ps : List Piece) :
    outsideTexts (ps.map Piece.hollow) = outsideTexts ps := by
  induction ps with
  | nil => rfl
  | cons p ps ih => cases p <;> simp [Piece.hollow, outsideTexts, ih]

lemma length_outsideTexts (ps : List Piece) :
    (outsideTexts ps).length = (contents ps).length + 1 := by
  induction ps with
  | nil => rfl
  | cons p ps ih =>
    cases p with
    | outside c =>
      have hcontents : contents (.outside c :: ps) = contents ps := List.filterMap_cons_none rfl
      rw [outsideTexts, hcontents, ← ih]
      rcases hrest : outsideTexts ps with _ | ⟨t, ts⟩
      · rw [hrest] at ih
        simp at ih
      · rfl
    | literal body =>
      have hcontents : contents (.literal body :: ps) =
          String.ofList (decode body) :: contents ps := List.filterMap_cons_some rfl
      rw [outsideTexts, hcontents, List.length_cons, List.length_cons, ih]

end SqlCompose.Text
