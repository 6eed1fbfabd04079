import Mathlib.Data.List.DropRight
import Mathlib.Tactic.Lemma
import SqlCompose.Text.Blank

/-!
# Trimmed texts

What is left of a text without the blanks at its two ends is known from the text alone: a part with no
blank at either end, and nothing but blanks around it.
-/

namespace SqlCompose.Text

/-- Blanks only, or nothing at all. -/
def Blanks (cs : List Char) : Prop :=
  ∀ c ∈ cs, isBlank c = true

instance : DecidablePred Blanks :=
  List.decidableBAll fun c => isBlank c = true

/-- No blank at either end. -/
def Trimmed (cs : List Char) : Prop :=
  (∀ c ∈ cs.head?, isBlank c = false) ∧ ∀ c ∈ cs.getLast?, isBlank c = false

instance : DecidablePred Trimmed := fun cs =>
  decidable_of_iff
    ((cs.head?.all fun c => !isBlank c) = true ∧ (cs.getLast?.all fun c => !isBlank c) = true)
    (by simp [Trimmed, Option.all_eq_true])

variable {cs front back : List Char}

lemma Blanks.nil : Blanks [] := by
  simp [Blanks]

lemma Blanks.append (hfront : Blanks front) (hback : Blanks back) : Blanks (front ++ back) :=
  List.forall_mem_append.2 ⟨hfront, hback⟩

/-- Blanks at the ends make no difference to what is left without them. -/
lemma trimList_padded (hfront : Blanks front) (hback : Blanks back) :
    trimList (front ++ cs ++ back) = trimList cs := by
  have hend : ∀ rest, trimEnd (rest ++ back) = trimEnd rest := fun rest => by
    have hreverse : ∀ c ∈ back.reverse, isBlank c = true := fun c hc =>
      hback c (List.mem_reverse.1 hc)
    rw [trimEnd, List.reverse_append, List.dropWhile_append_of_pos hreverse, trimEnd]
  rw [trimList, List.append_assoc, List.dropWhile_append_of_pos hfront, List.dropWhile_append,
    trimList]
  split
  · rename_i hempty
    rw [List.isEmpty_iff.1 hempty, List.dropWhile_eq_nil_iff.2 hback]
  · exact hend _

lemma Trimmed.append (hne : front ≠ []) (hfront : Trimmed front)
    (hback : ∀ c ∈ back.getLast?, isBlank c = false) : Trimmed (front ++ back) := by
  constructor
  · rw [List.head?_append_of_ne_nil _ hne]
    exact hfront.1
  · intro c hc
    rw [List.getLast?_append] at hc
    cases hlast : back.getLast? with
    | none => exact hfront.2 c (by simpa [hlast] using hc)
    | some d => exact hback c (by simpa [hlast] using hc)

lemma dropWhile_isBlank_of_head? (h : ∀ c ∈ cs.head?, isBlank c = false) :
    cs.dropWhile isBlank = cs := by
  cases cs with
  | nil => rfl
  | cons c cs => exact List.dropWhile_cons_of_neg (by simp [h c rfl])

lemma trimList_of_trimmed (h : Trimmed cs) : trimList cs = cs := by
  rw [trimList, dropWhile_isBlank_of_head? h.1]
  exact List.rdropWhile_eq_self_iff.2 fun hne => by
    simp [h.2 _ (List.getLast?_eq_some_getLast hne)]

/-- What stands around the part that is left is blank. -/
lemma eq_padded_trimList (cs : List Char) :
    ∃ front back, Blanks front ∧ Blanks back ∧ cs = front ++ trimList cs ++ back := by
  refine ⟨cs.takeWhile isBlank, (cs.dropWhile isBlank).rtakeWhile isBlank, ?_, ?_, ?_⟩
  · exact fun c hc => List.mem_takeWhile_imp hc
  · exact fun c hc => List.mem_rtakeWhile_imp hc
  · have hback : trimList cs ++ (cs.dropWhile isBlank).rtakeWhile isBlank = cs.dropWhile isBlank :=
      List.rdropWhile_append_rtakeWhile
    rw [List.append_assoc, hback, List.takeWhile_append_dropWhile]

/-- A text without blanks in front begins with the part that is left. -/
lemma exists_eq_trimList_append (h : ∀ c ∈ cs.head?, isBlank c = false) :
    ∃ back, Blanks back ∧ cs = trimList cs ++ back := by
  refine ⟨cs.rtakeWhile isBlank, fun c hc => List.mem_rtakeWhile_imp hc, ?_⟩
  rw [trimList, dropWhile_isBlank_of_head? h]
  exact List.rdropWhile_append_rtakeWhile.symm

lemma trimmed_trimList (cs : List Char) : Trimmed (trimList cs) := by
  have htrim : trimList cs = (cs.dropWhile isBlank).rdropWhile isBlank := rfl
  constructor
  · intro c hc
    obtain ⟨back, hback⟩ := List.rdropWhile_prefix isBlank (cs.dropWhile isBlank)
    have hhead : (cs.dropWhile isBlank).head? = some c := by
      rw [← hback, List.head?_append, ← htrim, Option.mem_def.1 hc]
      rfl
    simpa only [hhead] using List.head?_dropWhile_not isBlank cs
  · intro c hc
    obtain ⟨hne, rfl⟩ := List.mem_getLast?_eq_getLast hc
    have hlast := List.rdropWhile_last_not isBlank (cs.dropWhile isBlank) (htrim ▸ hne)
    simpa [htrim] using hlast

lemma trimList_eq_iff {rest : List Char} :
    trimList cs = rest ↔
      Trimmed rest ∧ ∃ front back, Blanks front ∧ Blanks back ∧ cs = front ++ rest ++ back := by
  constructor
  · rintro rfl
    exact ⟨trimmed_trimList cs, eq_padded_trimList cs⟩
  · rintro ⟨hrest, front, back, hfront, hback, rfl⟩
    rw [trimList_padded hfront hback, trimList_of_trimmed hrest]

lemma trimList_eq_nil_iff : trimList cs = [] ↔ Blanks cs := by
  rw [trimList_eq_iff]
  constructor
  · rintro ⟨-, front, back, hfront, hback, rfl⟩
    simpa using hfront.append hback
  · exact fun h => ⟨by simp [Trimmed], cs, [], h, .nil, by simp⟩

end SqlCompose.Text
