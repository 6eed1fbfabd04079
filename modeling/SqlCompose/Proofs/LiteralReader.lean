import SqlCompose.Proofs.Readers
import SqlCompose.Text.Quoted

/-!
# Reading literals back

A reader of literals: bare words, single-quoted texts with backslashes, and lists. It needs to see one
character behind a bare word, which is why a literal is read in front of a text that may follow one.
-/

namespace SqlCompose

open Text

/-- What a literal says: a bare word, a quoted text or a list of literals. -/
inductive Literal where
  | bare (word : String)
  | quoted (content : String)
  | list (items : List Literal)

namespace Literal

/-- The characters that end a bare word. -/
def endsWord (c : Char) : Bool :=
  [' ', ',', ')', ']'].contains c

def isWordChar (c : Char) : Bool :=
  !endsWord c && !(['(', '[', '\''].contains c)

/-- What may stand behind a literal. -/
def Follows (rest : List Char) : Prop :=
  ∀ c ∈ rest.head?, endsWord c = true

def word : Token String :=
  (Token.charWhere isWordChar).andThen fun c => do
    let others ← Reader.takeWhile isWordChar
    return String.ofList (c :: others)

/-- One character of a quoted text; a backslash takes the next character literally. -/
def bodyChar : Token Char :=
  .orElse (.charWhere fun c => c ≠ '\'' && c ≠ '\\')
    ((Token.char '\\').andThen fun _ => (Token.charWhere fun _ => true).reader)

def quotedText : Token String :=
  (Token.char '\'').andThen fun _ => do
    let body ← bodyChar.many
    let _ ← (Token.char '\'').reader
    return String.ofList body

def separator : Token Unit :=
  .word ',' [' '] ()

/-- The items of a list, up to the bracket that closes it. -/
def itemsUpTo (close : Char) (item : Token Literal) : Reader (List Literal) :=
  Reader.orElse
    (do
      let first ← item.reader
      let others ← (separator.andThen fun _ => item.reader).many
      let _ ← (Token.char close).reader
      return first :: others)
    (do
      let _ ← (Token.char close).reader
      return [])

def listIn (opening close : Char) (item : Token Literal) : Token Literal :=
  (Token.char opening).andThen fun _ => do
    let items ← itemsUpTo close item
    return .list items

def atom : Token Literal :=
  .orElse (quotedText.map .quoted) (word.map .bare)

/-- A literal inside a list, whose own lists nest at most `depth` deep. -/
def element : (depth : Nat) → Token Literal
  | 0 => atom
  | depth + 1 => .orElse atom (listIn '[' ']' (element depth))

/-- A literal on its own, where a list may also stand in parentheses. -/
def operand (depth : Nat) : Token Literal :=
  .orElse (listIn '(' ')' (element depth)) (element depth)

/-- The literal at the front of a text, and what follows it. No list nests deeper than its text is
long. -/
def read (s : List Char) : Option (Literal × List Char) :=
  (operand s.length).run s

/-- A literal as it is written inside a list. -/
def text : Literal → String
  | bare word => word
  | quoted content => Text.quoted true content
  | list items => "[" ++ joined items ++ "]"
where
  /-- The items of a list with commas between them. -/
  joined : List Literal → String
    | [] => ""
    | [l] => text l
    | l :: m :: rest => text l ++ ", " ++ joined (m :: rest)

/-- An item as it is written behind another one. -/
def nextText (l : Literal) : List Char :=
  ", ".toList ++ l.text.toList

/-- A literal as it is written on its own. -/
def operandText : Literal → String
  | list items => "(" ++ text.joined items ++ ")"
  | l => l.text

/-- Every bare word is one word. -/
inductive Legible : Literal → Prop where
  | bare {word : String} (hnil : word.toList ≠ [])
    (hword : word.toList.all isWordChar = true) : Legible (.bare word)
  | quoted (content : String) : Legible (.quoted content)
  | list {items : List Literal} (h : ∀ l ∈ items, Legible l) : Legible (.list items)

end Literal

namespace Literal

variable {rest : List Char}

lemma run_bodyChar (c : Char) : bodyChar.run (escapeChar c ++ rest) = some (c, rest) := by
  unfold escapeChar
  split
  · rename_i h
    rcases h with rfl | rfl <;> rfl
  · rename_i h
    rw [not_or] at h
    simp [bodyChar, Token.orElse, Token.charWhere, h]

lemma run_quotedText (s : String) :
    quotedText.run ((Text.quoted true s).toList ++ rest) = some (s, rest) := by
  have htext : (Text.quoted true s).toList ++ rest =
      '\'' :: (s.toList.flatMap escapeChar ++ '\'' :: rest) := by
    simp [Text.quoted, String.toList_append]
  have hbody : Token.readMany bodyChar (s.toList.flatMap escapeChar ++ '\'' :: rest) =
      (s.toList, '\'' :: rest) := by
    have hchars : ∀ c ∈ s.toList, ∀ rest, True →
        bodyChar.run (escapeChar c ++ rest) = some (id c, rest) := fun c _ _ _ => run_bodyChar c
    have h := @Token.readMany_flatMap Char Char escapeChar (fun _ => True) ('\'' :: rest) trivial
      (fun _ _ => trivial) bodyChar id rfl s.toList hchars
    rwa [List.map_id] at h
  rw [htext, quotedText, Token.run_andThen, Token.run_char, Option.bind_some, Reader.run_bind,
    Token.run_many, hbody, Option.bind_some, Reader.run_bind, Token.run_reader, Token.run_char,
    Option.bind_some, Reader.run_pure, String.ofList_toList]

lemma isWordChar_of_follows (hrest : Follows rest) : ∀ c ∈ rest.head?, isWordChar c = false := by
  intro c hc
  simp [isWordChar, hrest c hc]

lemma run_word {w : String} (hnil : w.toList ≠ []) (hword : ∀ c ∈ w.toList, isWordChar c = true)
    (hrest : Follows rest) : word.run (w.toList ++ rest) = some (w, rest) :=
  Token.run_wordWhere hnil hword (isWordChar_of_follows hrest)

lemma run_quotedText_of_ne {c : Char} (h : c ≠ '\'') (cs : List Char) :
    quotedText.run (c :: cs) = none := by
  rw [quotedText, Token.run_andThen, Token.run_char_of_ne cs h]
  rfl

lemma run_atom_bare {w : String} (hnil : w.toList ≠ [])
    (hword : ∀ c ∈ w.toList, isWordChar c = true) (hrest : Follows rest) :
    atom.run (w.toList ++ rest) = some (.bare w, rest) := by
  have hquoted : quotedText.run (w.toList ++ rest) = none := by
    rcases hw : w.toList with _ | ⟨c, cs⟩
    · contradiction
    · have hc := hword c (by simp [hw])
      refine run_quotedText_of_ne ?_ _
      rintro rfl
      contradiction
  rw [atom, Token.run_orElse, Token.run_map, Token.run_map, hquoted, run_word hnil hword hrest]
  rfl

lemma run_atom_quoted (s : String) :
    atom.run ((Text.quoted true s).toList ++ rest) = some (.quoted s, rest) := by
  rw [atom, Token.run_orElse, Token.run_map, run_quotedText]
  rfl

lemma run_atom_of_mark {c : Char} (hquote : c ≠ '\'') (hword : isWordChar c = false)
    (cs : List Char) : atom.run (c :: cs) = none := by
  have hnone : word.run (c :: cs) = none := by
    simp [word, Token.run_andThen, Token.charWhere, hword]
  rw [atom, Token.run_orElse, Token.run_map, Token.run_map, run_quotedText_of_ne hquote, hnone]
  rfl

lemma run_element_of_atom {s : List Char} {found : Literal × List Char}
    (h : atom.run s = some found) (depth : Nat) : (element depth).run s = some found := by
  cases depth with
  | zero => exact h
  | succ depth =>
    rw [element, Token.run_orElse, h]
    rfl

lemma run_listIn_of_ne (opening close : Char) (item : Token Literal) {c : Char} (h : c ≠ opening)
    (cs : List Char) : (listIn opening close item).run (c :: cs) = none := by
  rw [listIn, Token.run_andThen, Token.run_char_of_ne cs h]
  rfl

/-- No element starts with a mark that ends a word. -/
lemma run_element_of_endsWord {c : Char} (h : endsWord c = true) (depth : Nat) (cs : List Char) :
    (element depth).run (c :: cs) = none := by
  have hne : ∀ d, endsWord d = false → c ≠ d := by
    rintro d hd rfl
    rw [h] at hd
    contradiction
  have hatom : atom.run (c :: cs) = none :=
    run_atom_of_mark (hne _ rfl) (by simp [isWordChar, h]) cs
  cases depth with
  | zero => exact hatom
  | succ depth =>
    rw [element, Token.run_orElse, hatom, run_listIn_of_ne _ _ _ (hne _ rfl)]
    rfl

lemma toList_joined (l : Literal) (items : List Literal) :
    (text.joined (l :: items)).toList = l.text.toList ++ items.flatMap nextText := by
  induction items generalizing l with
  | nil => simp [text.joined]
  | cons m items ih =>
    rw [text.joined, String.toList_append, String.toList_append, ih, List.flatMap_cons, nextText,
      List.append_assoc, List.append_assoc]

lemma length_text_le_joined {l : Literal} {items : List Literal} (hl : l ∈ items) :
    l.text.toList.length ≤ (text.joined items).toList.length := by
  rcases items with _ | ⟨first, items⟩
  · contradiction
  rw [toList_joined, List.length_append]
  rcases List.mem_cons.1 hl with rfl | hl
  · omega
  · obtain ⟨front, back, rfl⟩ := List.append_of_mem hl
    simp only [List.flatMap_append, List.flatMap_cons, nextText, List.length_append]
    omega

lemma follows_nextText (l : Literal) (s : List Char) : Follows (l.nextText ++ s) := by
  rintro c ⟨⟩
  rfl

lemma run_separator (item : Token Literal) (l : Literal) (s : List Char) :
    (separator.andThen fun _ => item.reader).run (l.nextText ++ s) =
      item.run (l.text.toList ++ s) :=
  rfl

section list

variable {close : Char} {item : Token Literal} (hclose : endsWord close = true)
  (hcomma : close ≠ ',')

include hclose hcomma

lemma run_itemsUpTo_cons {l : Literal} {items : List Literal}
    (h : ∀ m ∈ l :: items, ∀ rest, Follows rest →
      item.run (m.text.toList ++ rest) = some (m, rest)) :
    (itemsUpTo close item).run ((text.joined (l :: items)).toList ++ close :: rest) =
      some (l :: items, rest) := by
  obtain ⟨hfirst, hitems⟩ := List.forall_mem_cons.1 h
  have hfollows : Follows (close :: rest) := by
    rintro c ⟨⟩
    exact hclose
  have hstop : (separator.andThen fun _ => item.reader).run (close :: rest) = none := by
    rw [Token.run_andThen, separator, Token.word, Token.run_andThen,
      Token.run_char_of_ne rest hcomma]
    rfl
  have hothers : Token.readMany (separator.andThen fun _ => item.reader)
      (items.flatMap nextText ++ close :: rest) = (items, close :: rest) := by
    have hmany := @Token.readMany_flatMap _ _ nextText _ _ hfollows follows_nextText _ id hstop items
      fun m hm s hs => (run_separator item m s).trans (hitems m hm s hs)
    rwa [List.map_id] at hmany
  rw [itemsUpTo, Reader.run_orElse, toList_joined, List.append_assoc, Reader.run_bind,
    Token.run_reader, hfirst _ (good_flatMap hfollows follows_nextText items), Option.bind_some,
    Reader.run_bind, Token.run_many, hothers, Option.bind_some, Reader.run_bind, Token.run_reader,
    Token.run_char]
  rfl

/-- A list is read back where each of its items is. -/
lemma run_listIn {opening : Char} (hrefused : ∀ cs, item.run (close :: cs) = none)
    {items : List Literal}
    (h : ∀ l ∈ items, ∀ rest, Follows rest → item.run (l.text.toList ++ rest) = some (l, rest)) :
    (listIn opening close item).run
        (opening :: ((text.joined items).toList ++ close :: rest)) =
      some (.list items, rest) := by
  have hitems : (itemsUpTo close item).run ((text.joined items).toList ++ close :: rest) =
      some (items, rest) := by
    cases items with
    | nil =>
      rw [itemsUpTo, Reader.run_orElse, Reader.run_bind, Token.run_reader]
      simp only [text.joined, String.toList_empty, List.nil_append]
      rw [hrefused, Reader.run_bind, Token.run_reader, Token.run_char]
      rfl
    | cons l items => exact run_itemsUpTo_cons hclose hcomma h
  rw [listIn, Token.run_andThen, Token.run_char, Option.bind_some, Reader.run_bind, hitems]
  rfl

end list

/-- A legible literal is read back in front of whatever may follow it. -/
theorem run_element_text {l : Literal} (h : Legible l) {depth : Nat}
    (hdepth : l.text.toList.length ≤ depth) {rest : List Char} (hrest : Follows rest) :
    (element depth).run (l.text.toList ++ rest) = some (l, rest) := by
  induction h generalizing depth rest with
  | bare hnil hword =>
    exact run_element_of_atom (run_atom_bare hnil (List.all_eq_true.1 hword) hrest) depth
  | quoted content => exact run_element_of_atom (run_atom_quoted content) depth
  | @list items hitems ih =>
    have htext : (text (.list items)).toList ++ rest =
        '[' :: ((text.joined items).toList ++ ']' :: rest) := by
      simp [text, String.toList_append]
    have hlength : (text (.list items)).toList.length = (text.joined items).toList.length + 2 := by
      simp [text, String.toList_append]
    obtain ⟨depth, rfl⟩ : ∃ d, depth = d + 1 := ⟨depth - 1, by omega⟩
    have hatom : atom.run ('[' :: ((text.joined items).toList ++ ']' :: rest)) = none :=
      run_atom_of_mark (by decide) rfl _
    rw [htext, element, Token.run_orElse, hatom, Option.none_or]
    refine run_listIn rfl (by decide) (run_element_of_endsWord rfl depth) fun l hl rest hrest =>
      ih l hl ?_ hrest
    have := length_text_le_joined hl
    omega

lemma run_parens_text {l : Literal} (h : Legible l) (item : Token Literal) (rest : List Char) :
    (listIn '(' ')' item).run (l.text.toList ++ rest) = none := by
  obtain ⟨c, cs, hcs, hc⟩ : ∃ c cs, l.text.toList = c :: cs ∧ c ≠ '(' := by
    cases h with
    | @bare word hnil hword =>
      rcases hw : word.toList with _ | ⟨c, cs⟩
      · contradiction
      · refine ⟨c, cs, hw, ?_⟩
        rintro rfl
        have := List.all_eq_true.1 hword '(' (by simp [hw])
        contradiction
    | quoted content =>
      exact ⟨'\'', (escape content).toList ++ ['\''], by simp [text, Text.quoted], by decide⟩
    | @list items hitems =>
      exact ⟨'[', (text.joined items).toList ++ [']'], by simp [text], by decide⟩
  rw [hcs, List.cons_append]
  exact run_listIn_of_ne '(' ')' item hc _

theorem read_text {l : Literal} (h : Legible l) {rest : List Char} (hrest : Follows rest) :
    read (l.text.toList ++ rest) = some (l, rest) := by
  rw [read, operand, Token.run_orElse, run_parens_text h, Option.none_or]
  exact run_element_text h (by simp) hrest

theorem read_operandText {l : Literal} (h : Legible l) {rest : List Char} (hrest : Follows rest) :
    read (l.operandText.toList ++ rest) = some (l, rest) := by
  cases h with
  | @list items hitems =>
    have htext : (operandText (.list items)).toList ++ rest =
        '(' :: ((text.joined items).toList ++ ')' :: rest) := by
      simp [operandText, String.toList_append]
    rw [htext, read, operand, Token.run_orElse, run_listIn rfl (by decide)
      (run_element_of_endsWord rfl _) fun l hl rest hrest => run_element_text (hitems l hl) ?_ hrest]
    · rfl
    · have := length_text_le_joined hl
      simp only [List.length_cons, List.length_append]
      omega
  | bare hnil hword => exact read_text (.bare hnil hword) hrest
  | quoted content => exact read_text (.quoted content) hrest

end Literal

end SqlCompose
