import Mathlib.Tactic.Lemma
import SqlCompose.Value.Basic

/-!
# Texts without quotes

The texts of numbers and points in time consist of digits and a few marks, and the text of an
identifier of hexadecimal digits and hyphens. None of them holds a quote or a backslash, and a number
holds no blank.
-/

namespace SqlCompose

namespace Text

/-- A decimal digit, a sign or a point. -/
def isNumeric (c : Char) : Bool :=
  c.isDigit || ['+', '-', '.'].contains c

def Numeric (s : String) : Prop :=
  ∀ c ∈ s.toList, isNumeric c = true

instance (s : String) : Decidable (Numeric s) :=
  decidable_of_iff (s.toList.all isNumeric = true) List.all_eq_true

lemma isNumeric_of_isDigit {c : Char} (h : c.isDigit = true) : isNumeric c = true := by
  simp [isNumeric, h]

lemma Numeric.append {a b : String} (ha : Numeric a) (hb : Numeric b) : Numeric (a ++ b) := by
  intro c hc
  rw [String.toList_append, List.mem_append] at hc
  exact hc.elim (ha c) (hb c)

lemma Numeric.of_digits {cs : List Char} (h : ∀ c ∈ cs, c.isDigit = true) :
    Numeric (String.ofList cs) := by
  intro c hc
  rw [String.toList_ofList] at hc
  exact isNumeric_of_isDigit (h c hc)

lemma Numeric.not_mem {s : String} (hs : Numeric s) {c : Char} (hc : isNumeric c = false) :
    c ∉ s.toList := by
  intro hmem
  rw [hs c hmem] at hc
  contradiction

lemma numeric_padded (width n : Nat) : Numeric (padded width n) := by
  refine .of_digits fun c hc => ?_
  rw [List.mem_append, List.mem_replicate] at hc
  obtain ⟨-, rfl⟩ | hc := hc
  · rfl
  · exact Nat.isDigit_of_mem_toDigits (by decide) (by decide) hc

lemma numeric_nat (n : Nat) : Numeric (toString n) := by
  intro c hc
  rw [Nat.toString_eq_repr, Nat.toList_repr] at hc
  exact isNumeric_of_isDigit (Nat.isDigit_of_mem_toDigits (by decide) (by decide) hc)

lemma nat_ne_nil (n : Nat) : (toString n).toList ≠ [] := by
  rw [Nat.toString_eq_repr, Nat.toList_repr]
  exact Nat.toDigits_ne_nil

lemma numeric_int (n : Int) : Numeric (toString n) := by
  cases n with
  | ofNat n => exact numeric_nat n
  | negSucc n =>
    have hminus : Numeric "-" := by decide
    exact hminus.append (numeric_nat (n + 1))

lemma int_ne_nil (n : Int) : (toString n).toList ≠ [] := by
  cases n with
  | ofNat n => exact nat_ne_nil n
  | negSucc n =>
    have htext : toString (Int.negSucc n) = "-" ++ toString (n + 1) := rfl
    rw [htext, String.toList_append]
    simp

lemma mem_intercalate {sep : String} {l : List String} {c : Char}
    (h : c ∈ (sep.intercalate l).toList) : c ∈ sep.toList ∨ ∃ s ∈ l, c ∈ s.toList := by
  induction l with
  | nil => simp at h
  | cons s l ih =>
    cases l with
    | nil => exact .inr ⟨s, by simp, by simpa using h⟩
    | cons t l =>
      rw [String.intercalate_cons_cons, String.toList_append, String.toList_append,
        List.mem_append, List.mem_append] at h
      obtain (h | h) | h := h
      · exact .inr ⟨s, by simp, h⟩
      · exact .inl h
      · obtain h | ⟨u, hu, h⟩ := ih h
        · exact .inl h
        · exact .inr ⟨u, List.mem_cons_of_mem s hu, h⟩

end Text

open Text

namespace Date

lemma numeric_yearText (year : Int) : Numeric (yearText year) := by
  have hminus : Numeric "-" := by decide
  have hplus : Numeric "+" := by decide
  unfold yearText
  split
  · exact hminus.append (numeric_padded _ _)
  · split
    · exact hplus.append (numeric_padded _ _)
    · exact numeric_padded _ _

lemma numeric_text (d : Date) : Numeric d.text := by
  have hminus : Numeric "-" := by decide
  exact ((((numeric_yearText _).append hminus).append (numeric_padded _ _)).append hminus).append
    (numeric_padded _ _)

end Date

lemma Moment.of_mem_text {t : Moment} {c : Char} (hc : c ∈ t.text.toList) :
    isNumeric c = true ∨ c = ' ' ∨ c = ':' := by
  have hpadded : ∀ n, c ∈ (padded 2 n).toList → isNumeric c = true := fun n =>
    numeric_padded 2 n c
  simp only [text, String.toList_append, List.mem_append] at hc
  rcases hc with (((((hc | hc) | hc) | hc) | hc) | hc) | hc
  · exact .inl (t.date.numeric_text c hc)
  · exact .inr (.inl (by simpa using hc))
  · exact .inl (hpadded _ hc)
  · exact .inr (.inr (by simpa using hc))
  · exact .inl (hpadded _ hc)
  · exact .inr (.inr (by simpa using hc))
  · exact .inl (hpadded _ hc)

lemma Moment.quote_not_mem_text (t : Moment) : '\'' ∉ t.text.toList := by
  intro h
  obtain h | h | h := of_mem_text h <;> exact absurd h (by decide)

lemma Moment.backslash_not_mem_text (t : Moment) : '\\' ∉ t.text.toList := by
  intro h
  obtain h | h | h := of_mem_text h <;> exact absurd h (by decide)

namespace Uuid

lemma digitChar_of_mem_toDigits {n : Nat} {c : Char} (hc : c ∈ Nat.toDigits 16 n) :
    ∃ d, c = Nat.digitChar d := by
  induction n using Nat.strongRecOn with
  | ind n ih =>
    rw [Nat.toDigits_eq_if (by decide)] at hc
    split at hc
    · exact ⟨n, List.mem_singleton.1 hc⟩
    · rcases List.mem_append.1 hc with hc | hc
      · exact ih (n / 16) (by omega) hc
      · exact ⟨n % 16, List.mem_singleton.1 hc⟩

lemma digitChar_of_mem_digits {u : Uuid} {c : Char} (hc : c ∈ u.digits) :
    ∃ d, c = Nat.digitChar d := by
  rcases List.mem_append.1 hc with hc | hc
  · exact ⟨0, (List.mem_replicate.1 hc).2⟩
  · exact digitChar_of_mem_toDigits hc

lemma of_mem_text {u : Uuid} {c : Char} (hc : c ∈ u.text.toList) :
    c = '-' ∨ ∃ d, c = Nat.digitChar d := by
  rw [text] at hc
  obtain hc | ⟨s, hs, hc⟩ := mem_intercalate hc
  · exact .inl (by simpa using hc)
  · refine .inr (digitChar_of_mem_digits (u := u) ?_)
    simp only [List.map_cons, List.map_nil, List.mem_cons, List.not_mem_nil, or_false] at hs
    rcases hs with rfl | rfl | rfl | rfl | rfl <;> rw [String.toList_ofList] at hc
    · exact List.mem_of_mem_take hc
    · exact List.mem_of_mem_drop (List.mem_of_mem_take hc)
    · exact List.mem_of_mem_drop (List.mem_of_mem_take hc)
    · exact List.mem_of_mem_drop (List.mem_of_mem_take hc)
    · exact List.mem_of_mem_drop hc

lemma quote_not_mem_text (u : Uuid) : '\'' ∉ u.text.toList := by
  intro h
  obtain h | ⟨d, hd⟩ := of_mem_text h
  · exact absurd h (by decide)
  · exact Nat.digitChar_ne '\'' (by decide) hd.symm

lemma backslash_not_mem_text (u : Uuid) : '\\' ∉ u.text.toList := by
  intro h
  obtain h | ⟨d, hd⟩ := of_mem_text h
  · exact absurd h (by decide)
  · exact Nat.digitChar_ne '\\' (by decide) hd.symm

end Uuid

namespace Decimal

lemma Numeral.isDigit_of_mem_ofScaled {n : Nat} {exponent : Int} {c : Char}
    (hc : c ∈ (ofScaled n exponent).digits) : c.isDigit = true := by
  rw [ofScaled, List.mem_reverse] at hc
  have hmem := (List.dropWhile_sublist _).mem hc
  exact Nat.isDigit_of_mem_toDigits (by decide) (by decide) (List.mem_reverse.1 hmem)

lemma Binary.isDigit_of_mem_shortest {tie : Tie} {x : Binary} {c : Char}
    (hc : c ∈ (x.shortest tie).digits) : c.isDigit = true := by
  unfold shortest at hc
  simp only [] at hc
  -- Whichever candidate is found first, its digits are those of some `ofScaled`.
  generalize hfound : List.findSome? _ (List.range 17) = found at hc
  cases found with
  | none =>
    rw [Option.getD_none, exact] at hc
    split at hc <;> exact Numeral.isDigit_of_mem_ofScaled hc
  | some d =>
    obtain ⟨more, -, hmore⟩ := List.exists_of_findSome?_eq_some hfound
    obtain ⟨n, -, rfl⟩ := Option.map_eq_some_iff.1 hmore
    exact Numeral.isDigit_of_mem_ofScaled hc

lemma Numeral.numeric_positional {d : Numeral} (hd : ∀ c ∈ d.digits, c.isDigit = true) :
    Numeric (d.positional "") := by
  have hzero : Numeric "0." := by decide
  have hpoint : Numeric "." := by decide
  have hempty : Numeric "" := by decide
  have hzeros : ∀ n c, c ∈ List.replicate n '0' → c.isDigit = true := by
    intro n c hc
    rw [(List.mem_replicate.1 hc).2]
    rfl
  unfold positional
  split
  · refine hzero.append (.of_digits fun c hc => ?_)
    exact (List.mem_append.1 hc).elim (hzeros _ c) (hd c)
  · simp only []
    split
    · refine Numeric.append (.of_digits fun c hc => ?_) hempty
      exact (List.mem_append.1 hc).elim (hd c) (hzeros _ c)
    · refine ((Numeric.of_digits fun c hc => ?_).append hpoint).append (.of_digits fun c hc => ?_)
      · exact hd c (List.mem_of_mem_take hc)
      · exact hd c (List.mem_of_mem_drop hc)

lemma Numeral.positional_ne_nil (d : Numeral) (wholeEnd : String) :
    (d.positional wholeEnd).toList ≠ [] := by
  unfold positional
  split
  · simp [String.toList_append]
  · simp only []
    split
    · intro hnil
      have hlength := congrArg List.length hnil
      simp only [String.toList_append, String.toList_ofList, List.length_append,
        List.length_replicate, List.length_nil] at hlength
      omega
    · simp [String.toList_append]

end Decimal

/-- A double is written in digits and marks, unless it is no finite number. -/
theorem Value.numeric_or_word_of_float (x : Float) :
    Numeric (floatStyle.write x) ∨ floatStyle.write x ∈ ["nan", "inf", "-inf"] := by
  have hsign : ∀ s, Numeric (Decimal.Style.sign s) := by
    intro s
    cases s <;> decide
  unfold Decimal.Style.write
  split
  · exact .inr (by decide)
  · rename_i s _
    cases s <;> exact .inr (by decide)
  · have hzero : Numeric "0" := by decide
    have hempty : Numeric "" := by decide
    exact .inl (((hsign _).append hzero).append hempty)
  · refine .inl ((hsign _).append ?_)
    rw [if_pos (show floatStyle.positional _ = true from rfl)]
    exact Decimal.Numeral.numeric_positional fun c hc => Decimal.Binary.isDigit_of_mem_shortest hc

lemma Value.float_ne_nil (x : Float) : (floatStyle.write x).toList ≠ [] := by
  unfold Decimal.Style.write
  split
  · decide
  · simp [String.toList_append, floatStyle]
  · simp [String.toList_append]
  · simp only []
    rw [if_pos (show floatStyle.positional _ = true from rfl), String.toList_append]
    exact List.append_ne_nil_of_right_ne_nil _ (Decimal.Numeral.positional_ne_nil _ _)

end SqlCompose
