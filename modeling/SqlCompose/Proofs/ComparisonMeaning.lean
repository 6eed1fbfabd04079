import SqlCompose.Proofs.Identifiers
import SqlCompose.Proofs.Meaning
import SqlCompose.Proofs.Woven

/-!
# The meaning of a comparison

The text of a comparison of a path with an operand without sub-queries is one atom, whatever strings
the operand holds.
-/

namespace SqlCompose

open Text Boolean

namespace Boolean

lemma toUpper_of_isNumeric {c : Char} (h : isNumeric c = true) : c.toUpper = c := by
  simp only [isNumeric, Bool.or_eq_true, List.contains_iff_mem, List.mem_cons, List.not_mem_nil,
    or_false] at h
  rcases h with h | rfl | rfl | rfl
  · simp only [Char.isDigit, Bool.and_eq_true, decide_eq_true_eq] at h
    unfold Char.toUpper
    rw [dif_neg]
    rintro ⟨ha, -⟩
    have hle := UInt32.le_trans ha h.2
    contradiction
  all_goals rfl

lemma keyword?_of_numeric {w : List Char} (h : ∀ c ∈ w, isNumeric c = true) :
    keyword? (.word w) = none := by
  have hmap : w.map Char.toUpper = w := by
    rw [List.map_congr_left fun c hc => toUpper_of_isNumeric (h c hc), List.map_id']
  have hne : ∀ c cs, isNumeric c = false → w ≠ c :: cs := by
    rintro c cs hc rfl
    rw [h c (by simp)] at hc
    contradiction
  rw [keyword?, hmap, if_neg (hne _ _ rfl), if_neg (hne _ _ rfl), if_neg (hne _ _ rfl)]

lemma isFlat_of_numeric {t : Token} (h : ∀ c ∈ t.text, isNumeric c = true) : isFlat t = true := by
  cases t with
  | word w =>
    have hkey : keyword? (.word w) = none := keyword?_of_numeric h
    simp [isFlat, hkey]
  | literal body =>
    have hmark := h '\'' (by simp [Token.text])
    exact absurd hmark (by decide)
  | mark c =>
    have hmark := h c (by simp [Token.text])
    have hopen : c ≠ '(' := by
      rintro rfl
      exact absurd hmark (by decide)
    have hclose : c ≠ ')' := by
      rintro rfl
      exact absurd hmark (by decide)
    simp [isFlat, keyword?_mark, hopen, hclose]

lemma quiet_numeric {s : String} (h : Numeric s) (hne : s.toList ≠ []) : Quiet s := by
  have hplain : '\'' ∉ s.toList := h.not_mem rfl
  refine .flat hplain (fun t ht => ?_) (List.getLast?_eq_some_getLast hne) ?_
  · refine isFlat_of_numeric fun c hc => h c ?_
    rw [← flatMap_text_of_pieces? (pieces?_of_plain hplain), ← text_tokens]
    exact List.mem_flatMap.2 ⟨t, ht, hc⟩
  · intro hblank
    have hlast := h _ (List.getLast_mem hne)
    rw [hblank] at hlast
    exact absurd hlast (by decide)

lemma quiet_quoted_plain {s : String} (hslash : '\\' ∉ s.toList) (hquote : '\'' ∉ s.toList) :
    Quiet (quoted false s) := by
  rw [quoted_of_plain hslash hquote]
  exact .quoted s

/-- Where no text is taken over unread, every parenthesis has its counterpart. -/
lemma balanced_of_woven {s : String} (h : Woven (fun _ => False) s) : Balanced s := by
  induction h with
  | bare h => exact .plain (h.not_mem rfl) (h.not_mem rfl) (h.not_mem rfl)
  | given h => contradiction
  | literal s => exact .quoted s
  | append _ _ ht hu => exact ht.append hu
  | parens _ h => exact h.parens
  | brackets _ h => exact h.brackets

end Boolean

namespace Value

lemma quiet_write (x : Float) : Quiet (floatStyle.write x) := by
  obtain h | h := numeric_or_word_of_float x
  · exact quiet_numeric h (float_ne_nil x)
  · simp only [List.mem_cons, List.not_mem_nil, or_false] at h
    obtain h | h | h := h <;> rw [h]
    · exact .flat (by decide) (by decide) (c := 'n') rfl (by decide)
    · exact .flat (by decide) (by decide) (c := 'f') rfl (by decide)
    · exact .flat (by decide) (by decide) (c := 'f') rfl (by decide)

section balanced

variable {v : Value} (h : v.rawTexts = [])

include h

lemma balanced_candidates : Balanced (v.candidates true) :=
  balanced_of_woven (woven_candidates (by simp [h]))

lemma balanced_arrayArgument : Balanced (v.arrayArgument true) :=
  balanced_of_woven (woven_arrayArgument (by simp [h]))

end balanced

lemma quiet_literal {v : Value} (hnull : v.isNull = false) (h : v.rawTexts = []) :
    Quiet (v.literal true) := by
  cases v with
  | null => simp [isNull] at hnull
  | bool b =>
    cases b
    · exact .flat (by decide) (by decide) (c := 'e') rfl (by decide)
    · exact .flat (by decide) (by decide) (c := 'e') rfl (by decide)
  | int n => exact quiet_numeric (numeric_int n.toInt) (int_ne_nil n.toInt)
  | uint n => exact quiet_numeric (numeric_nat n.toNat) (nat_ne_nil n.toNat)
  | float x => exact quiet_write x
  | text s => exact .quoted s
  | date d =>
    exact quiet_quoted_plain (d.numeric_text.not_mem rfl)
      (d.numeric_text.not_mem rfl)
  | moment t => exact quiet_quoted_plain t.backslash_not_mem_text t.quote_not_mem_text
  | uuid u => exact quiet_quoted_plain u.backslash_not_mem_text u.quote_not_mem_text
  | array items =>
    exact .group (balanced_of_woven (woven_joined (by simp [h])))
  | subquery sql => simp [rawTexts] at h

end Value

/-- Identifiers with points between them: a letter or an underscore in front, and letters, digits,
underscores and points behind it. -/
def IsPath (path : String) : Prop :=
  ∃ c cs, path.toList = c :: cs ∧ StartsIdentifier c ∧ cs.all isWordChar = true

lemma isWordChar_of_starts {c : Char} (h : StartsIdentifier c) : isWordChar c = true := by
  rw [StartsIdentifier, ← isAlpha_iff] at h
  unfold isWordChar Char.isAlphanum
  simp only [Bool.or_eq_true, decide_eq_true_eq]
  tauto

lemma isDigit_of_starts {c : Char} (h : StartsIdentifier c) : c.isDigit = false := by
  rw [Bool.eq_false_iff]
  intro hdigit
  simp only [Char.isDigit, Bool.and_eq_true, decide_eq_true_eq] at hdigit
  rcases h with (⟨hletter, -⟩ | ⟨hletter, -⟩) | rfl
  · have hle := UInt32.le_trans hletter hdigit.2
    contradiction
  · have hle := UInt32.le_trans hletter hdigit.2
    contradiction
  · exact absurd hdigit.2 (by decide)

namespace IsPath

variable {path : String}

lemma isWordChar_of_mem (h : IsPath path) {d : Char} (hd : d ∈ path.toList) :
    isWordChar d = true := by
  obtain ⟨c, cs, hword, hc, hcs⟩ := h
  rw [hword, List.mem_cons] at hd
  obtain rfl | hd := hd
  · exact isWordChar_of_starts hc
  · exact List.all_eq_true.1 hcs d hd

lemma not_mem (h : IsPath path) {d : Char} (hd : isWordChar d = false) : d ∉ path.toList := by
  intro hmem
  rw [h.isWordChar_of_mem hmem] at hd
  contradiction

lemma balanced (h : IsPath path) : Balanced path :=
  .plain (h.not_mem rfl) (h.not_mem rfl) (h.not_mem rfl)

lemma isAtom_append (h : IsPath path) (hkey : keyword? (.word path.toList) = none) {s : String}
    (hs : Quiet s) {d : Char} {ds : List Char} (hfront : s.toList = d :: ds) (hquote : d ≠ '\'')
    (hd : isWordChar d = false) : IsAtom (path ++ s) := by
  have hchars : path.toList.all isWordChar = true :=
    List.all_eq_true.2 fun d => h.isWordChar_of_mem
  obtain ⟨c, cs, hword, hc, hcs⟩ := h
  exact Boolean.isAtom_append hword (isDigit_of_starts hc) hchars hkey hs hfront hquote hd

end IsPath

namespace Comparison

/-- The path is one that is no word of the grammar, and the operand holds no sub-query. -/
structure Readable (c : Comparison) : Prop where
  isPath : IsPath c.path
  noKeyword : keyword? (.word c.path.toList) = none
  noSubquery : c.value.rawTexts = []

section forms

variable {c : Comparison}

lemma isAtom_isNull (h : c.Readable) : IsAtom (c.path ++ " IS NULL") := by
  have hquiet : Quiet " IS NULL" := .flat (by decide) (by decide) (c := 'L') rfl (by decide)
  exact h.isPath.isAtom_append h.noKeyword hquiet rfl (by decide) rfl

lemma isAtom_isIn (h : c.Readable) :
    IsAtom (c.path ++ " IN (" ++ c.value.candidates true ++ ")") := by
  have hquiet : Quiet (" IN " ++ ("(" ++ c.value.candidates true ++ ")")) := by
    refine .behind (by decide) (by decide) ?_ (.group (Value.balanced_candidates h.noSubquery))
    intro d hd
    obtain rfl : ' ' = d := Option.some.inj hd
    rfl
  have hfront : (" IN " ++ ("(" ++ c.value.candidates true ++ ")")).toList =
      ' ' :: ("IN (" ++ c.value.candidates true ++ ")").toList := by
    simp [String.toList_append]
  have hatom := h.isPath.isAtom_append h.noKeyword hquiet hfront (by decide) rfl
  have hsplit : " IN (" = " IN " ++ "(" := by decide
  simpa only [hsplit, String.append_assoc] using hatom

lemma isAtom_hasAny (h : c.Readable) :
    IsAtom ("hasAny(" ++ c.path ++ ", " ++ c.value.arrayArgument true ++ ")") := by
  have hcomma : Balanced ", " := .constant rfl
  have hquiet : Quiet ("(" ++ (c.path ++ ", " ++ c.value.arrayArgument true) ++ ")") :=
    .group ((h.isPath.balanced.append hcomma).append (Value.balanced_arrayArgument h.noSubquery))
  have hfront : ("(" ++ (c.path ++ ", " ++ c.value.arrayArgument true) ++ ")").toList =
      '(' :: (c.path ++ ", " ++ c.value.arrayArgument true ++ ")").toList := by
    simp [String.toList_append]
  have hname : IsPath "hasAny" := ⟨'h', "asAny".toList, rfl, by decide, by decide⟩
  have hatom := hname.isAtom_append rfl hquiet hfront (by decide) rfl
  have hsplit : "hasAny(" = "hasAny" ++ "(" := by decide
  simpa only [hsplit, String.append_assoc] using hatom

lemma isAtom_operator (h : c.Readable) (hnull : c.value.isNull = false) :
    IsAtom (c.path ++ " " ++ c.operator.token ++ " " ++ c.value.literal true) := by
  have hlast : (" " ++ c.operator.token ++ " ").toList.getLast? = some ' ' := by
    rw [String.toList_append, List.getLast?_append]
    rfl
  have hquiet : Quiet (" " ++ c.operator.token ++ " " ++ c.value.literal true) := by
    refine .behind ?_ ?_ ?_ (Value.quiet_literal hnull h.noSubquery)
    · cases c.operator <;> decide
    · cases c.operator <;> decide
    · intro d hd
      rw [hlast] at hd
      obtain rfl := Option.some.inj hd
      rfl
  have hfront : (" " ++ c.operator.token ++ " " ++ c.value.literal true).toList =
      ' ' :: (c.operator.token ++ " " ++ c.value.literal true).toList := by
    simp [String.toList_append]
  have hatom := h.isPath.isAtom_append h.noKeyword hquiet hfront (by decide) rfl
  simpa only [String.append_assoc] using hatom

end forms

/-- The text of a readable comparison is one atom. -/
theorem isAtom_sql {c : Comparison} (h : c.Readable) : IsAtom (c.sql true) := by
  by_cases hnull : c.value.isNull = true
  · rw [sql_of_isNull hnull]
    exact isAtom_isNull h
  rw [Bool.not_eq_true] at hnull
  by_cases hop : c.operator.isMembership = false
  · rw [sql_of_not_isMembership hnull hop]
    exact isAtom_operator h hnull
  · obtain hop | hop := Operator.eq_isIn_or_eq_hasAny hop
    · rw [sql_of_isIn hnull hop]
      exact isAtom_isIn h
    · rw [sql_of_hasAny hnull hop]
      exact isAtom_hasAny h

end Comparison

end SqlCompose
