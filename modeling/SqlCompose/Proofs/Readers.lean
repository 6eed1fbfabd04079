import Mathlib.Tactic.Lemma
import SqlCompose.Text.Reader

/-!
# What readers do

The result of each way of putting readers together, the reading of words, and the reading of a text
that is made of many texts.
-/

namespace SqlCompose.Text

section run

variable {α β : Type} (s : List Char)

lemma Token.run_andThen (p : Token α) (f : α → Reader β) :
    (p.andThen f).run s = (p.run s).bind fun found => (f found.1).run found.2 :=
  rfl

lemma Token.run_map (p : Token α) (f : α → β) :
    (p.map f).run s = (p.run s).map fun found => (f found.1, found.2) := by
  rw [Token.map, run_andThen]
  cases p.run s <;> rfl

lemma Token.run_orElse (p q : Token α) : (p.orElse q).run s = (p.run s).or (q.run s) :=
  rfl

lemma Reader.run_orElse (p q : Reader α) : (p.orElse q).run s = (p.run s).or (q.run s) :=
  rfl

lemma Reader.run_bind (p : Reader α) (f : α → Reader β) :
    (p >>= f).run s = (p.run s).bind fun found => (f found.1).run found.2 :=
  rfl

lemma Reader.run_pure (a : α) : (pure a : Reader α).run s = some (a, s) :=
  rfl

lemma Token.run_reader (p : Token α) : p.reader.run s = p.run s :=
  rfl

lemma Token.run_many (p : Token α) : p.many.run s = some (Token.readMany p s) :=
  rfl

lemma Token.run_char (c : Char) : (Token.char c).run (c :: s) = some (c, s) := by
  simp [Token.char, Token.charWhere]

lemma Token.run_char_of_ne {c d : Char} (h : d ≠ c) : (Token.char c).run (d :: s) = none := by
  simp [Token.char, Token.charWhere, h]

/-- A non-empty word of the characters that pass `test`. -/
def Token.wordWhere (test : Char → Bool) : Token String :=
  (Token.charWhere test).andThen fun c => do
    let others ← Reader.takeWhile test
    return String.ofList (c :: others)

lemma Reader.run_takeWhile {test : Char → Bool} {cs rest : List Char}
    (hcs : ∀ c ∈ cs, test c = true) (hrest : ∀ c ∈ rest.head?, test c = false) :
    (Reader.takeWhile test).run (cs ++ rest) = some (cs, rest) := by
  have hend : rest.takeWhile test = [] ∧ rest.dropWhile test = rest := by
    rcases rest with _ | ⟨d, rest⟩
    · exact ⟨rfl, rfl⟩
    · simp [hrest d rfl]
  simp only [Reader.takeWhile]
  rw [List.takeWhile_append_of_pos hcs, List.dropWhile_append_of_pos hcs, hend.1, hend.2,
    List.append_nil]

/-- A word is read where no further character of its kind follows. -/
lemma Token.run_wordWhere {test : Char → Bool} {w : String} {rest : List Char}
    (hnil : w.toList ≠ []) (hword : ∀ c ∈ w.toList, test c = true) (hrest : ∀ c ∈ rest.head?, test c = false) :
    (wordWhere test).run (w.toList ++ rest) = some (w, rest) := by
  have htext : w = String.ofList w.toList := String.ofList_toList.symm
  rw [htext]
  generalize w.toList = cs at hnil hword ⊢
  rcases cs with _ | ⟨c, cs⟩
  · contradiction
  obtain ⟨hc, hcs⟩ := List.forall_mem_cons.1 hword
  have hfirst : (Token.charWhere test).run (c :: (cs ++ rest)) = some (c, cs ++ rest) := by
    simp [Token.charWhere, hc]
  rw [String.toList_ofList, List.cons_append, wordWhere, Token.run_andThen, hfirst,
    Option.bind_some, Reader.run_bind, Reader.run_takeWhile hcs hrest, Option.bind_some, Reader.run_pure]

lemma Token.readMany_of_refused {p : Token α} (h : p.run s = none) :
    Token.readMany p s = ([], s) := by
  rw [Token.readMany]
  split
  · rfl
  · simp_all

lemma Token.readMany_of_taken {p : Token α} {a : α} {rest : List Char}
    (h : p.run s = some (a, rest)) :
    Token.readMany p s = (a :: (Token.readMany p rest).1, (Token.readMany p rest).2) := by
  rw [Token.readMany]
  split
  · simp_all
  · rename_i h'
    rw [h] at h'
    obtain ⟨rfl, rfl⟩ := Prod.mk.inj (Option.some.inj h')
    rfl

section flatMap

variable {text : β → List Char} {Good : List Char → Prop} {stop : List Char} (hstop : Good stop)
  (hgood : ∀ b rest, Good (text b ++ rest))

include hstop hgood

lemma good_flatMap (items : List β) : Good (items.flatMap text ++ stop) := by
  cases items with
  | nil => exact hstop
  | cons b items =>
    rw [List.flatMap_cons, List.append_assoc]
    exact hgood b _

/-- What reads each text in front of a `Good` rest reads all the texts, up to where it refuses. -/
lemma Token.readMany_flatMap {p : Token α} {value : β → α} (hrefused : p.run stop = none)
    {items : List β}
    (h : ∀ b ∈ items, ∀ rest, Good rest → p.run (text b ++ rest) = some (value b, rest)) :
    Token.readMany p (items.flatMap text ++ stop) = (items.map value, stop) := by
  induction items with
  | nil => exact readMany_of_refused stop hrefused
  | cons b items ih =>
    have hfirst := h b (by simp) _ (good_flatMap hstop hgood items)
    rw [List.flatMap_cons, List.append_assoc, readMany_of_taken _ hfirst,
      ih fun c hc => h c (List.mem_cons_of_mem b hc)]
    rfl

end flatMap

end run

end SqlCompose.Text
