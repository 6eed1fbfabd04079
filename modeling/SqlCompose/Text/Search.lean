/-!
# Searching a text

A text is cut at the first place where a word occurs. Main statements: the two halves and the word
between them give the text back, and no occurrence of the word starts earlier.
-/

namespace SqlCompose.Text

/-- The text after `word`, if the text starts with it. -/
def after? : (word s : List Char) → Option (List Char)
  | [], s => some s
  | _ :: _, [] => none
  | w :: word, c :: s => if w = c then after? word s else none

/-- Cuts a text at the first occurrence of `word`, which belongs to neither half. -/
def cut? (word : List Char) : List Char → Option (List Char × List Char)
  | [] => if word.isEmpty then some ([], []) else none
  | c :: t =>
    match after? word (c :: t) with
    | some rest => some ([], rest)
    | none => (cut? word t).map fun halves => (c :: halves.1, halves.2)

/-- A text contains `word` when it can be cut at it. -/
def contains (word s : String) : Bool :=
  (cut? word.toList s.toList).isSome

theorem append_of_after? {word s rest : List Char} (h : after? word s = some rest) :
    s = word ++ rest := by
  fun_induction after? word s with
  | case1 s => simpa using h
  | case2 => simp at h
  | case3 word c s ih => rw [ih h, List.cons_append]
  | case4 => simp at h

theorem after?_append (word rest : List Char) : after? word (word ++ rest) = some rest := by
  induction word with
  | nil => rfl
  | cons w word ih => simpa [after?] using ih

/-- Nothing is lost at a cut. -/
theorem append_of_cut? {word s before rest : List Char}
    (h : cut? word s = some (before, rest)) : s = before ++ word ++ rest := by
  induction s generalizing before with
  | nil =>
    simp only [cut?] at h
    split at h
    · rename_i hw
      obtain ⟨rfl, rfl⟩ := Prod.mk.inj (Option.some.inj h)
      simpa using (List.isEmpty_iff.1 hw)
    · simp at h
  | cons c t ih =>
    simp only [cut?] at h
    split at h
    · rename_i r hr
      obtain ⟨rfl, rfl⟩ := Prod.mk.inj (Option.some.inj h)
      simpa using append_of_after? hr
    · obtain ⟨⟨b, r⟩, hb, he⟩ := Option.map_eq_some_iff.1 h
      obtain ⟨rfl, rfl⟩ := Prod.mk.inj he
      simp [ih hb]

/-- A text with an occurrence of the word is cut, and not behind that occurrence. -/
theorem cut?_append_le (word before rest : List Char) :
    ∃ halves, cut? word (before ++ (word ++ rest)) = some halves ∧
      halves.1.length ≤ before.length := by
  induction before with
  | nil =>
    cases word with
    | nil => cases rest <;> exact ⟨_, rfl, Nat.le_refl 0⟩
    | cons w word =>
      have h : after? (w :: word) (w :: (word ++ rest)) = some rest :=
        after?_append (w :: word) rest
      simp [cut?, h]
  | cons c before ih =>
    obtain ⟨halves, hh, hle⟩ := ih
    rw [List.cons_append, cut?]
    split
    · exact ⟨_, rfl, Nat.zero_le _⟩
    · rw [hh]
      exact ⟨_, rfl, Nat.succ_le_succ hle⟩

end SqlCompose.Text
