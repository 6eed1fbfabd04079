import SqlCompose.Aggregate
import SqlCompose.Proofs.Identifiers
import SqlCompose.Proofs.Readers

/-!
# Reading aggregates back

Every call and every arithmetic operation of an aggregate stands in parentheses of its own, so that
a reader finds the tree again in its text: the operators, what they are applied to, and nothing of
the labels.
-/

namespace SqlCompose

open Text

namespace Aggregate

def unlabelled : Aggregate → Aggregate
  | onColumn function column _ => onColumn function column none
  | onAggregate function argument _ => onAggregate function argument.unlabelled none
  | arithmetic left op right _ => arithmetic left.unlabelled op right.unlabelled none

/-- Functions are named by identifiers, and columns by dotted ones or by the star. -/
def Named : Aggregate → Prop
  | onColumn function column _ => IsIdentifier function ∧ (column = "*" ∨ IsDotted column)
  | onAggregate function argument _ => IsIdentifier function ∧ argument.Named
  | arithmetic left _ right _ => left.Named ∧ right.Named

/-- How deep the parentheses of the expression nest. -/
def height : Aggregate → Nat
  | onColumn _ _ _ => 1
  | onAggregate _ argument _ => argument.height + 1
  | arithmetic left _ right _ => max left.height right.height + 1

def isNameChar (c : Char) : Bool :=
  c ≠ '(' && c ≠ ')'

/-- No function is without a name, and no name holds a parenthesis. -/
def Plain : Aggregate → Prop
  | onColumn function column _ =>
    (function.toList ≠ [] ∧ ∀ c ∈ function.toList, isNameChar c = true) ∧
      ∀ c ∈ column.toList, isNameChar c = true
  | onAggregate function argument _ =>
    (function.toList ≠ [] ∧ ∀ c ∈ function.toList, isNameChar c = true) ∧ argument.Plain
  | arithmetic left _ right _ => left.Plain ∧ right.Plain

def operator : Token Arithmetic :=
  .oneOf ([.add, .sub, .mul, .div].map fun op => .word ' ' (op.token.toList ++ [' ']) op)

def argument (function : String) (expression : Token Aggregate) : Reader Aggregate := do
  let _ ← (Token.char '(').reader
  -- what stops at a parenthesis that opens is no column
  Reader.orElse
    (do
      let column ← Reader.takeWhile isNameChar
      let _ ← (Token.char ')').reader
      return onColumn function (String.ofList column) none)
    (do
      let inner ← expression.reader
      let _ ← (Token.char ')').reader
      return onAggregate function inner none)

def call (expression : Token Aggregate) : Token Aggregate :=
  (Token.wordWhere isNameChar).andThen fun function => argument function expression

def operation (expression : Token Aggregate) : Token Aggregate :=
  (Token.char '(').andThen fun _ => do
    let left ← expression.reader
    let op ← operator.reader
    let right ← expression.reader
    let _ ← (Token.char ')').reader
    return arithmetic left op right none

/-- An expression whose parentheses nest at most `depth` deep. -/
def reader : (depth : Nat) → Token Aggregate
  | 0 => .refuse
  | depth + 1 => .orElse (call (reader depth)) (operation (reader depth))

def read? (s : String) : Option Aggregate :=
  (reader s.toList.length).reader.runAll? s

lemma expression_unlabelled (a : Aggregate) : a.unlabelled.expression = a.expression := by
  induction a with
  | onColumn function column label => rfl
  | onAggregate function argument label ih => rw [unlabelled, expression, expression, ih]
  | arithmetic left op right label ihl ihr => rw [unlabelled, expression, expression, ihl, ihr]

/-- No parentheses nest deeper than the text is long. -/
lemma height_le_length (a : Aggregate) : a.height ≤ a.expression.toList.length := by
  have hopen : "(".toList.length = 1 := rfl
  induction a with
  | onColumn | onAggregate | arithmetic =>
    simp only [height, expression, String.toList_append, List.length_append]
    omega

lemma isNameChar_of_continues {c : Char} (h : ContinuesIdentifier c) : isNameChar c = true := by
  have hopen : c ≠ '(' := by
    rintro rfl
    exact absurd h (by decide)
  have hclose : c ≠ ')' := by
    rintro rfl
    exact absurd h (by decide)
  simp [isNameChar, hopen, hclose]

lemma plain_of_named {a : Aggregate} (h : a.Named) : a.Plain := by
  have hname : ∀ {name : String}, IsIdentifier name →
      name.toList ≠ [] ∧ ∀ c ∈ name.toList, isNameChar c = true := by
    intro name h
    refine ⟨fun hnil => ?_, fun c hc => isNameChar_of_continues (h.2 c hc)⟩
    obtain ⟨c, hc, -⟩ := h.1
    rw [hnil] at hc
    contradiction
  induction a with
  | onColumn function column label =>
    refine ⟨hname h.1, fun c hc => ?_⟩
    obtain rfl | hdotted := h.2
    · obtain rfl : c = '*' := by simpa using hc
      rfl
    · obtain rfl | hc := hdotted.eq_point_or_continues hc
      · rfl
      · exact isNameChar_of_continues hc
  | onAggregate function argument label ih => exact ⟨hname h.1, ih h.2⟩
  | arithmetic left op right label ihl ihr => exact ⟨ihl h.1, ihr h.2⟩

section text

variable (function column : String) (label : Option String) (a b : Aggregate) (op : Arithmetic)
  (rest : List Char)

lemma toList_expression_onColumn :
    (onColumn function column label).expression.toList ++ rest =
      function.toList ++ '(' :: (column.toList ++ ')' :: rest) := by
  simp [expression, String.toList_append]

lemma toList_expression_onAggregate :
    (onAggregate function a label).expression.toList ++ rest =
      function.toList ++ '(' :: (a.expression.toList ++ ')' :: rest) := by
  simp [expression, String.toList_append]

lemma toList_expression_arithmetic :
    (arithmetic a op b label).expression.toList ++ rest =
      '(' :: (a.expression.toList ++ ((" " ++ op.token ++ " ").toList ++
        (b.expression.toList ++ ')' :: rest))) := by
  simp [expression, String.toList_append]

end text

/-- Up to the first parenthesis of an expression stands a name, or nothing. -/
lemma exists_opening {a : Aggregate} (h : a.Plain) (rest : List Char) :
    ∃ name s, a.expression.toList ++ rest = name ++ '(' :: s ∧ ∀ c ∈ name, isNameChar c = true := by
  cases a with
  | onColumn function column label => exact ⟨_, _, toList_expression_onColumn .., h.1.2⟩
  | onAggregate function argument label => exact ⟨_, _, toList_expression_onAggregate .., h.1.2⟩
  | arithmetic left op right label => exact ⟨[], _, toList_expression_arithmetic .., by simp⟩

section run

variable {rest s : List Char} {function : String} {item : Token Aggregate}

lemma run_operator (op : Arithmetic) :
    operator.run ((" " ++ op.token ++ " ").toList ++ rest) = some (op, rest) := by
  cases op <;> rfl

lemma run_argument_column {column : String} (h : ∀ c ∈ column.toList, isNameChar c = true) :
    (argument function item).run ('(' :: (column.toList ++ ')' :: rest)) =
      some (onColumn function column none, rest) := by
  have hclose : ∀ c ∈ (')' :: rest).head?, isNameChar c = false := by
    rintro c ⟨⟩
    rfl
  rw [argument, Reader.run_bind, Token.run_reader, Token.run_char, Option.bind_some,
    Reader.run_orElse, Reader.run_bind, Reader.run_takeWhile h hclose, Option.bind_some,
    Reader.run_bind, Token.run_reader, Token.run_char, Option.bind_some, Reader.run_pure,
    String.ofList_toList, Option.some_or]

/-- What opens a parenthesis before it closes one is read as an expression. -/
lemma run_argument_aggregate {inner : Aggregate} {name t : List Char} (hs : s = name ++ '(' :: t)
    (hname : ∀ c ∈ name, isNameChar c = true) (hitem : item.run s = some (inner, ')' :: rest)) :
    (argument function item).run ('(' :: s) = some (onAggregate function inner none, rest) := by
  have hopen : ∀ c ∈ ('(' :: t).head?, isNameChar c = false := by
    rintro c ⟨⟩
    rfl
  have hcolumn : (Reader.takeWhile isNameChar).run s = some (name, '(' :: t) := by
    rw [hs, Reader.run_takeWhile hname hopen]
  rw [argument, Reader.run_bind, Token.run_reader, Token.run_char, Option.bind_some,
    Reader.run_orElse, Reader.run_bind, hcolumn, Option.bind_some, Reader.run_bind,
    Token.run_reader, Token.run_char_of_ne t (by decide), Option.bind_none, Option.none_or,
    Reader.run_bind, Token.run_reader, hitem, Option.bind_some, Reader.run_bind, Token.run_reader,
    Token.run_char, Option.bind_some, Reader.run_pure]

lemma run_call (hname : function.toList ≠ [] ∧ ∀ c ∈ function.toList, isNameChar c = true) :
    (call item).run (function.toList ++ '(' :: s) = (argument function item).run ('(' :: s) := by
  have hopen : ∀ c ∈ ('(' :: s).head?, isNameChar c = false := by
    rintro c ⟨⟩
    rfl
  rw [call, Token.run_andThen, Token.run_wordWhere hname.1 hname.2 hopen, Option.bind_some]

lemma run_call_of_opening : (call item).run ('(' :: s) = none :=
  rfl

lemma run_operation {left right : Aggregate} {op : Arithmetic} {t : List Char}
    (hleft : item.run s = some (left, (" " ++ op.token ++ " ").toList ++ t))
    (hright : item.run t = some (right, ')' :: rest)) :
    (operation item).run ('(' :: s) = some (arithmetic left op right none, rest) := by
  rw [operation, Token.run_andThen, Token.run_char, Option.bind_some, Reader.run_bind,
    Token.run_reader, hleft, Option.bind_some, Reader.run_bind, Token.run_reader, run_operator,
    Option.bind_some, Reader.run_bind, Token.run_reader, hright, Option.bind_some, Reader.run_bind,
    Token.run_reader, Token.run_char, Option.bind_some, Reader.run_pure]

end run

/-- A plain expression is read back in front of whatever follows it. -/
theorem run_reader_expression {a : Aggregate} (h : a.Plain) {depth : Nat}
    (hdepth : a.height ≤ depth) (rest : List Char) :
    (reader depth).run (a.expression.toList ++ rest) = some (a.unlabelled, rest) := by
  -- an operand stands in front of the rest of the expression around it, hence any `rest`
  induction a generalizing depth rest with
  | onColumn function column label =>
    obtain ⟨depth, rfl⟩ := Nat.exists_eq_add_of_le' hdepth
    rw [toList_expression_onColumn, height, reader, Token.run_orElse, run_call h.1,
      run_argument_column h.2, Option.some_or, unlabelled]
  | onAggregate function argument label ih =>
    obtain ⟨depth, rfl⟩ := Nat.exists_eq_add_of_le' (Nat.le_of_add_left_le hdepth)
    have hargument : argument.height ≤ depth := Nat.le_of_succ_le_succ hdepth
    obtain ⟨name, s, hopening, hname⟩ := exists_opening h.2 (')' :: rest)
    rw [toList_expression_onAggregate, reader, Token.run_orElse, run_call h.1,
      run_argument_aggregate hopening hname (ih h.2 hargument _), Option.some_or, unlabelled]
  | arithmetic left op right label ihl ihr =>
    obtain ⟨depth, rfl⟩ := Nat.exists_eq_add_of_le' (Nat.le_of_add_left_le hdepth)
    obtain ⟨hleft, hright⟩ := Nat.max_le.1 (Nat.le_of_succ_le_succ hdepth)
    rw [toList_expression_arithmetic, reader, Token.run_orElse, run_call_of_opening,
      Option.none_or, run_operation (ihl h.1 hleft _) (ihr h.2 hright _), unlabelled]

theorem read?_expression {a : Aggregate} (h : a.Plain) :
    read? a.expression = some a.unlabelled := by
  have hrun := run_reader_expression h a.height_le_length []
  rw [List.append_nil] at hrun
  rw [read?, Reader.runAll?, Token.run_reader, hrun]

/-- Where functions and columns have names, the text of an aggregate is read back as the tree
without its labels, so that two aggregates have one text exactly when they are equal but for
labels. In the text that a statement selects no label of an inner expression occurs, and the label
behind it is its own or else the fallback. -/
theorem expression_unambiguous {a b : Aggregate} (ha : a.Named) (hb : b.Named) :
    (a.expression = b.expression ↔ a.unlabelled = b.unlabelled) ∧
      read? a.expression = some a.unlabelled ∧
      ∀ (t : Aggregate) (fallback : Option String),
        t.sql fallback = t.unlabelled.expression ++
          match t.label, fallback with
          | some own, _ => " as " ++ own
          | none, some label => " as " ++ label
          | none, none => "" := by
  have hreada := read?_expression (plain_of_named ha)
  have hreadb := read?_expression (plain_of_named hb)
  refine ⟨⟨fun h => ?_, fun h => ?_⟩, hreada, fun t fallback => ?_⟩
  · rw [h, hreadb] at hreada
    exact (Option.some.inj hreada).symm
  · rw [← expression_unlabelled a, h, expression_unlabelled]
  · rw [expression_unlabelled, sql]
    cases t.label <;> cases fallback <;> simp [String.append_assoc]

/-- The place of a parenthesis tells two differences apart. -/
theorem expression_unambiguous_nested :
    let sum (column : String) : Aggregate := onColumn "SUM" column (some "inner")
    let minus (a b : Aggregate) : Aggregate := arithmetic a .sub b none
    let left := minus (minus (sum "a") (sum "b.c")) countRows
    let right := minus (sum "a") (minus (sum "b.c") countRows)
    left.Named ∧ right.Named ∧ left.expression = "((SUM(a) - SUM(b.c)) - COUNT(*))" ∧
      left.expression ≠ right.expression ∧ read? left.expression = some left.unlabelled ∧
      left.sql (some "total") = "((SUM(a) - SUM(b.c)) - COUNT(*)) as total" := by
  intro sum minus left right
  have hdotted : IsDotted "b.c" := ⟨["b", "c"], by decide, by decide, by decide⟩
  have ha : (sum "a").Named := ⟨by decide, .inr ⟨["a"], by decide, by decide, by decide⟩⟩
  have hb : (sum "b.c").Named := ⟨by decide, .inr hdotted⟩
  have hcount : countRows.Named := ⟨by decide, .inl rfl⟩
  have hleft : left.Named := ⟨⟨ha, hb⟩, hcount⟩
  have hright : right.Named := ⟨ha, hb, hcount⟩
  obtain ⟨hiff, hread, hsql⟩ := expression_unambiguous hleft hright
  have hne : left.expression ≠ right.expression := fun h => absurd (hiff.1 h) (by decide)
  exact ⟨hleft, hright, by decide, hne, hread, (hsql left (some "total")).trans (by decide)⟩

end Aggregate

end SqlCompose
