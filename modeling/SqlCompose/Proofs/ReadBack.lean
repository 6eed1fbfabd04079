import SqlCompose.Proofs.ConditionShape
import SqlCompose.Proofs.LiteralReader

/-!
# What the literals of operands say

Operands of different kinds may be written alike. What an operand and its literal have in common is
its erasure, and the literal says exactly that.
-/

namespace SqlCompose

open Text

namespace Value

mutual

/-- What the literal of a value says. A sub-query is no literal and counts as one word. -/
def erased : Value → Literal
  | null => .bare "NULL"
  | bool b => .bare (boolText b)
  | int n => .bare (toString n.toInt)
  | uint n => .bare (toString n.toNat)
  | float x => .bare (floatStyle.write x)
  | text s => .quoted s
  | date d => .quoted d.text
  | moment t => .quoted t.text
  | uuid u => .quoted u.text
  | array items => .list (erasedOfList items)
  | subquery sql => .bare ("(" ++ sql ++ ")")

def erasedOfList : List Value → List Literal
  | [] => []
  | v :: rest => erased v :: erasedOfList rest

end

/-- The items of the array that stands for an operand. -/
def items : Value → List Value
  | array items => items
  | v => [v]

lemma erased_array (items : List Value) : (array items).erased = .list (items.map erased) := by
  have hlist : erasedOfList items = items.map erased := by
    induction items with
    | nil => rfl
    | cons v rest ih => simp [erasedOfList, ih]
  rw [erased, hlist]

lemma joined_eq_text_joined {values : List Value}
    (h : ∀ v ∈ values, v.element true = v.erased.text) :
    joined true values = Literal.text.joined (values.map erased) := by
  rw [joined_eq]
  induction values with
  | nil => rfl
  | cons v values ih =>
    have hv := h v (by simp)
    have hrest := ih fun w hw => h w (List.mem_cons_of_mem v hw)
    cases values with
    | nil => simpa [Literal.text.joined] using hv
    | cons w values =>
      simp only [List.map_cons] at hrest ⊢
      rw [String.intercalate_cons_cons, hrest, hv, Literal.text.joined]

lemma element_eq_text (v : Value) : v.element true = v.erased.text := by
  induction v using induct with
  | null | bool | int | uint | float | text | subquery => rfl
  | date d =>
    exact quoted_of_plain (d.numeric_text.not_mem rfl) (d.numeric_text.not_mem rfl) false
  | moment t => exact quoted_of_plain t.backslash_not_mem_text t.quote_not_mem_text false
  | uuid u => exact quoted_of_plain u.backslash_not_mem_text u.quote_not_mem_text false
  | array items ih =>
    rw [erased_array, Literal.text, ← joined_eq_text_joined ih]
    rfl

lemma literal_eq_operandText (v : Value) : v.literal true = v.erased.operandText := by
  cases v with
  | array items =>
    rw [erased_array, Literal.operandText,
      ← joined_eq_text_joined fun v _ => element_eq_text v]
    rfl
  | date | moment | uuid => exact element_eq_text _
  | _ => rfl

lemma arrayLiteral_eq_text (v : Value) :
    v.arrayLiteral true = (Literal.list (v.items.map erased)).text := by
  have hitems : v.arrayLiteral true = "[" ++ joined true v.items ++ "]" := by
    cases v <;> simp [arrayLiteral, items, joined_eq]
  rw [hitems, Literal.text, joined_eq_text_joined fun v _ => element_eq_text v]

lemma legible_of_numeric {s : String} (hnil : s.toList ≠ []) (hs : Numeric s) :
    (Literal.bare s).Legible := by
  refine .bare hnil (List.all_eq_true.2 fun c hc => ?_)
  rw [Literal.isWordChar, Literal.endsWord]
  have hne : ∀ d, isNumeric d = false → c ≠ d := by
    rintro d hd rfl
    exact hs.not_mem hd hc
  simp [hne ' ' rfl, hne ',' rfl, hne ')' rfl, hne ']' rfl, hne '(' rfl, hne '[' rfl, hne '\'' rfl]

lemma legible_list {values : List Value} (h : ∀ v ∈ values, v.erased.Legible) :
    (Literal.list (values.map erased)).Legible := by
  refine .list fun l hl => ?_
  obtain ⟨v, hmem, rfl⟩ := List.mem_map.1 hl
  exact h v hmem

/-- Without a sub-query every literal is legible. -/
lemma legible_erased {v : Value} (hv : v.rawTexts = []) : v.erased.Legible := by
  induction v using induct with
  | null => exact .bare (by decide) (by decide)
  | bool b => cases b <;> exact .bare (by decide) (by decide)
  | int n => exact legible_of_numeric (int_ne_nil _) (numeric_int _)
  | uint n => exact legible_of_numeric (nat_ne_nil _) (numeric_nat _)
  | float x =>
    rcases numeric_or_word_of_float x with hx | hx
    · exact legible_of_numeric (float_ne_nil x) hx
    · have hwords : ∀ w ∈ ["nan", "inf", "-inf"], (Literal.bare w).Legible := by
        intro w hw
        simp only [List.mem_cons, List.not_mem_nil, or_false] at hw
        rcases hw with rfl | rfl | rfl <;> exact .bare (by decide) (by decide)
      exact hwords _ hx
  | text s => exact .quoted s
  | date d => exact .quoted d.text
  | moment t => exact .quoted t.text
  | uuid u => exact .quoted u.text
  | array items ih =>
    rw [rawTexts_array, List.flatMap_eq_nil_iff] at hv
    rw [erased_array]
    exact legible_list fun v hmem => ih v hmem (hv v hmem)
  | subquery sql => contradiction

lemma rawTexts_of_mem_items {v u : Value} (hv : v.rawTexts = []) (hu : u ∈ v.items) :
    u.rawTexts = [] := by
  cases v with
  | array values =>
    rw [rawTexts_array, List.flatMap_eq_nil_iff] at hv
    exact hv u hu
  | _ =>
    obtain rfl := List.mem_singleton.1 hu
    exact hv

/-- Without sub-queries, the literals of an operand are read back in front of whatever may follow
them. So two operands are written alike exactly where their erasures are equal. -/
theorem read_literal {v : Value} (hv : v.rawTexts = []) {rest : List Char}
    (hrest : Literal.Follows rest) :
    Literal.read ((v.literal true).toList ++ rest) = some (v.erased, rest) ∧
      Literal.read ((v.arrayLiteral true).toList ++ rest) =
        some (.list (v.items.map erased), rest) ∧
      ∀ w : Value, w.rawTexts = [] → (v.literal true = w.literal true ↔ v.erased = w.erased) := by
  have hread : ∀ {u : Value} {rest : List Char}, u.rawTexts = [] → Literal.Follows rest →
      Literal.read ((u.literal true).toList ++ rest) = some (u.erased, rest) := by
    intro u rest hu hrest
    rw [literal_eq_operandText]
    exact Literal.read_operandText (legible_erased hu) hrest
  refine ⟨hread hv hrest, ?_, fun w hw => ⟨fun h => ?_, fun h => ?_⟩⟩
  · rw [arrayLiteral_eq_text]
    exact Literal.read_text
      (legible_list fun u hu => legible_erased (rawTexts_of_mem_items hv hu)) hrest
  · have hv' := hread hv hrest
    rw [h, hread hw hrest] at hv'
    simpa using hv'.symm
  · rw [literal_eq_operandText, literal_eq_operandText, h]

/-- A list whose strings hold a quote, a comma and the text of another list. -/
def quoting : Value :=
  .array [.text "it's", .array [.int (-7), .text "1], [2"], .null]

theorem read_literal_quoting :
    Literal.read "('it\\'s', [-7, '1], [2'], NULL) OR".toList = some
        (.list [.quoted "it's", .list [.bare "-7", .quoted "1], [2"], .bare "NULL"],
          " OR".toList) ∧
      quoting.literal true ≠ (Value.array [.text "it's"]).literal true := by
  have hrest : Literal.Follows " OR".toList := by
    rintro c ⟨⟩
    rfl
  obtain ⟨hread, -, hiff⟩ := @read_literal quoting rfl " OR".toList hrest
  refine ⟨hread, fun h => ?_⟩
  have := (hiff (.array [.text "it's"]) rfl).1 h
  cases this

end Value

end SqlCompose
