import SqlCompose.Proofs.ComparisonText
import SqlCompose.Proofs.Literals

/-!
# Patterns of contained texts

The pattern for the texts that contain an operand is the operand between two percent signs. The
operand is part of the pattern as it is, so that its own percent signs, underscores and backslashes
mean what they mean in a pattern. Without such marks the pattern is matched by exactly the texts that
contain the operand, and with any of them it is not.
-/

namespace SqlCompose

namespace Pattern

/-- A character with a meaning of its own in a pattern. -/
def isMark (c : Char) : Bool :=
  ['%', '_', '\\'].contains c

/-- The texts that match a pattern: a percent sign stands for any characters, an underscore for any
one, and a character behind a backslash or without a meaning of its own for itself. -/
inductive Matches : List Char → List Char → Prop where
  | nil : Matches [] []
  | anything (u : List Char) {p t : List Char} (h : Matches p t) : Matches ('%' :: p) (u ++ t)
  | anyone (c : Char) {p t : List Char} (h : Matches p t) : Matches ('_' :: p) (c :: t)
  | escaped (c : Char) {p t : List Char} (h : Matches p t) : Matches ('\\' :: c :: p) (c :: t)
  | itself {c : Char} (hc : isMark c = false) {p t : List Char} (h : Matches p t) :
    Matches (c :: p) (c :: t)

lemma matches_anything_iff {p t : List Char} :
    Matches ('%' :: p) t ↔ ∃ u v, t = u ++ v ∧ Matches p v := by
  constructor
  · intro h
    cases h with
    | anything u h => exact ⟨u, _, rfl, h⟩
    | itself hc h => contradiction
  · rintro ⟨u, v, rfl, h⟩
    exact .anything u h

lemma matches_cons_iff {c : Char} (hc : isMark c = false) {p t : List Char} :
    Matches (c :: p) t ↔ ∃ v, t = c :: v ∧ Matches p v := by
  constructor
  · intro h
    cases h with
    | itself _ h => exact ⟨_, rfl, h⟩
    | _ => contradiction
  · rintro ⟨v, rfl, h⟩
    exact .itself hc h

lemma matches_append_iff {s : List Char} (hs : ∀ c ∈ s, isMark c = false) {p t : List Char} :
    Matches (s ++ p) t ↔ ∃ v, t = s ++ v ∧ Matches p v := by
  induction s generalizing t with
  | nil => simp
  | cons c s ih =>
    rw [List.forall_mem_cons] at hs
    rw [List.cons_append, matches_cons_iff hs.1]
    simp only [ih hs.2]
    constructor
    · rintro ⟨_, rfl, v, rfl, h⟩
      exact ⟨v, rfl, h⟩
    · rintro ⟨v, rfl, h⟩
      exact ⟨s ++ v, rfl, v, rfl, h⟩

/-- The pattern of the texts that contain `s`. -/
def containing (s : List Char) : List Char :=
  '%' :: (s ++ ['%'])

lemma matches_containing_iff {s : List Char} (hs : ∀ c ∈ s, isMark c = false) {t : List Char} :
    Matches (containing s) t ↔ s <:+: t := by
  have hrest : ∀ v, Matches ['%'] v := fun v => by
    simpa using Matches.anything v .nil
  rw [containing, matches_anything_iff]
  simp only [matches_append_iff hs]
  constructor
  · rintro ⟨u, _, rfl, v, rfl, -⟩
    exact ⟨u, v, List.append_assoc ..⟩
  · rintro ⟨u, v, rfl⟩
    exact ⟨u, s ++ v, List.append_assoc .., v, rfl, hrest v⟩

/-- Some text that is no longer than `s` matches `s` with a percent sign behind it. It is `s` itself
only where `s` has no marks: nothing stands for a percent sign in it, a letter for an underscore, and a
backslash goes. -/
lemma exists_matches_le (s : List Char) :
    ∃ t, Matches (s ++ ['%']) t ∧ t.length ≤ s.length ∧
      (t = s → ∀ c ∈ s, isMark c = false) := by
  match s with
  | [] => exact ⟨[], .anything [] .nil, Nat.le_refl 0, by simp⟩
  | c :: s =>
    obtain ⟨t, ht, hlength, hplain⟩ := exists_matches_le s
    rcases hc : isMark c with _ | _
    · refine ⟨c :: t, .itself hc ht, Nat.succ_le_succ hlength, fun h => ?_⟩
      exact List.forall_mem_cons.2 ⟨hc, hplain (List.cons.inj h).2⟩
    obtain rfl | rfl | rfl : c = '%' ∨ c = '_' ∨ c = '\\' := by simpa [isMark] using hc
    · refine ⟨t, .anything [] ht, Nat.le_succ_of_le hlength, ?_⟩
      rintro rfl
      exact absurd hlength (Nat.not_succ_le_self s.length)
    · exact ⟨'a' :: t, .anyone 'a' ht, Nat.succ_le_succ hlength, by simp⟩
    · match s with
      | [] => exact ⟨['%'], .escaped '%' .nil, Nat.le_refl 1, by simp⟩
      | d :: s =>
        obtain ⟨t, ht, hlength, -⟩ := exists_matches_le s
        refine ⟨d :: t, .escaped d ht, Nat.succ_le_succ (Nat.le_succ_of_le hlength), fun h => ?_⟩
        obtain ⟨-, rfl⟩ := List.cons.inj h
        exact absurd hlength (Nat.not_succ_le_self s.length)

/-- Contained texts are found by the pattern exactly for the operands without marks. -/
lemma forall_matches_containing_iff (s : List Char) :
    (∀ t, Matches (containing s) t ↔ s <:+: t) ↔ ∀ c ∈ s, isMark c = false := by
  constructor
  · intro h
    obtain ⟨t, ht, hlength, hplain⟩ := exists_matches_le s
    have hpart : s <:+: t := (h t).1 (.anything [] ht)
    exact hplain (hpart.eq_of_length_le hlength).symm
  · exact fun hs t => matches_containing_iff hs

end Pattern

namespace Comparison

lemma sql_prepared_like (path s : String) :
    (prepared path .like (.text s)).sql true =
      path ++ " LIKE " ++ Text.quoted true ("%" ++ s ++ "%") := by
  have hlike : " LIKE " = " " ++ "LIKE" ++ " " := by decide
  rw [sql_of_not_isMembership rfl rfl, hlike]
  simp only [prepared, String.append_assoc]
  rfl

/-- The comparison for the texts that contain `s` ends in one literal, which stands for a pattern. The
pattern is matched by exactly these texts if and only if `s` has no percent sign, no underscore and no
backslash. -/
theorem like_contains_iff (path s : String) :
    ∃ literal body, (prepared path .like (.text s)).sql true = path ++ " LIKE " ++ literal ∧
      Text.pieces? literal = some [.literal body] ∧
      ((∀ t : String, Pattern.Matches (Text.decode body) t.toList ↔ s.toList <:+: t.toList) ↔
        ∀ c ∈ s.toList, c ≠ '%' ∧ c ≠ '_' ∧ c ≠ '\\') := by
  refine ⟨_, _, sql_prepared_like path s, Text.pieces?_quoted _, ?_⟩
  have hpattern : ("%" ++ s ++ "%").toList = Pattern.containing s.toList := by
    simp [Pattern.containing, String.toList_append]
  have htexts : (∀ t : String, Pattern.Matches (Pattern.containing s.toList) t.toList ↔
      s.toList <:+: t.toList) ↔
        ∀ t, Pattern.Matches (Pattern.containing s.toList) t ↔ s.toList <:+: t :=
    ⟨fun h t => by simpa using h (String.ofList t), fun h t => h t.toList⟩
  rw [Text.decode_flatMap_escapeChar, hpattern, htexts, Pattern.forall_matches_containing_iff]
  simp [Pattern.isMark]

/-- The pattern for `50%` finds a text that does not contain it. -/
theorem like_percent_finds_more :
    (prepared "note" .like (.text "50%")).sql true = "note LIKE '%50%%'" ∧
      Text.pieces? "'%50%%'" = some [.literal "%50%%".toList] ∧
      Pattern.Matches (Text.decode "%50%%".toList) "500".toList ∧
      ¬ "50%".toList <:+: "500".toList := by
  refine ⟨by decide, rfl, ?_, by decide⟩
  exact .anything [] (.itself rfl (.itself rfl (.anything ['0'] (.anything [] .nil))))

end Comparison

end SqlCompose
