import SqlCompose.Proofs.PlainTexts
import SqlCompose.Table.Name

/-!
# Identifiers

Identifiers, and identifiers with points between them. A path that is made of names without points
consists of identifiers when each of the names is one.
-/

namespace SqlCompose

def IsLetter (c : Char) : Prop :=
  'a' ≤ c ∧ c ≤ 'z' ∨ 'A' ≤ c ∧ c ≤ 'Z'

def StartsIdentifier (c : Char) : Prop :=
  IsLetter c ∨ c = '_'

def ContinuesIdentifier (c : Char) : Prop :=
  IsLetter c ∨ ('0' ≤ c ∧ c ≤ '9') ∨ c = '_'

instance : DecidablePred IsLetter :=
  fun _ => inferInstanceAs (Decidable (_ ∨ _))

instance : DecidablePred StartsIdentifier :=
  fun _ => inferInstanceAs (Decidable (_ ∨ _))

instance : DecidablePred ContinuesIdentifier :=
  fun _ => inferInstanceAs (Decidable (_ ∨ _))

/-- A letter or an underscore, and letters, digits and underscores behind it. -/
def IsIdentifier (name : String) : Prop :=
  (∃ c ∈ name.toList.head?, StartsIdentifier c) ∧ ∀ c ∈ name.toList, ContinuesIdentifier c

-- decided along the text: the quantifiers range over all characters, of which there are too many
instance : DecidablePred IsIdentifier := fun name =>
  decidable_of_iff
    (name.toList.head?.any (fun c => decide (StartsIdentifier c)) = true ∧
      name.toList.all (fun c => decide (ContinuesIdentifier c)) = true)
    (by simp only [IsIdentifier, Option.any_eq_true, List.all_eq_true, decide_eq_true_eq,
      Option.mem_def])

lemma isAlpha_iff (c : Char) : c.isAlpha = true ↔ IsLetter c := by
  unfold Char.isAlpha Char.isUpper Char.isLower
  simp only [Bool.or_eq_true, Bool.and_eq_true, decide_eq_true_eq]
  exact or_comm

lemma startsName_iff (c : Char) : TableName.startsName c = true ↔ StartsIdentifier c := by
  rw [TableName.startsName, Bool.or_eq_true, isAlpha_iff, decide_eq_true_eq]
  rfl

lemma continuesName_iff (c : Char) :
    TableName.continuesName c = true ↔ ContinuesIdentifier c := by
  simp only [TableName.continuesName, Char.isAlphanum, Char.isDigit, Bool.or_eq_true,
    Bool.and_eq_true, decide_eq_true_eq, isAlpha_iff]
  exact or_assoc

/-- One identifier or several with single points between them. -/
def IsDotted (path : String) : Prop :=
  ∃ names, names ≠ [] ∧ (∀ name ∈ names, IsIdentifier name) ∧ path = ".".intercalate names

lemma IsIdentifier.point_not_mem {name : String} (h : IsIdentifier name) : '.' ∉ name.toList := by
  intro hmem
  exact absurd (h.2 '.' hmem) (by decide)

/-- Every front of an identifier is one, but for the empty text. -/
lemma IsIdentifier.of_isPrefix {name front : String} (h : IsIdentifier name)
    (hfront : front.toList <+: name.toList) (hne : front ≠ "") : IsIdentifier front := by
  obtain ⟨hhead, hall⟩ := h
  refine ⟨?_, fun c hc => hall c (hfront.mem hc)⟩
  obtain ⟨rest, hrest⟩ := hfront
  rcases htext : front.toList with _ | ⟨c, cs⟩
  · exact absurd (String.toList_eq_nil_iff.1 htext) hne
  · rw [← hrest, htext] at hhead
    exact hhead

lemma not_isIdentifier_empty : ¬ IsIdentifier "" := by
  decide

lemma IsDotted.eq_point_or_continues {path : String} (h : IsDotted path) {c : Char}
    (hc : c ∈ path.toList) : c = '.' ∨ ContinuesIdentifier c := by
  obtain ⟨names, -, hnames, rfl⟩ := h
  obtain hc | ⟨name, hname, hc⟩ := Text.mem_intercalate hc
  · exact .inl (by simpa using hc)
  · exact .inr ((hnames name hname).2 c hc)

lemma splitOn_point_intercalate {names : List String} (hne : names ≠ [])
    (hpoint : ∀ name ∈ names, '.' ∉ name.toList) :
    (".".intercalate names).toList.splitOn '.' = names.map String.toList := by
  rw [String.toList_intercalate]
  exact List.splitOn_intercalate '.' (by simpa using hpoint) (by simpa using hne)

/-- Names without points are found again in a path that is made of them. -/
lemma isDotted_intercalate_iff {names : List String} (hne : names ≠ [])
    (hpoint : ∀ name ∈ names, '.' ∉ name.toList) :
    IsDotted (".".intercalate names) ↔ ∀ name ∈ names, IsIdentifier name := by
  constructor
  · rintro ⟨others, hothers, hidentifier, hpath⟩
    have hmap := splitOn_point_intercalate hne hpoint
    rw [hpath, splitOn_point_intercalate hothers fun n hn => (hidentifier n hn).point_not_mem,
      List.map_inj_right fun _ _ => String.toList_inj.1] at hmap
    exact hmap ▸ hidentifier
  · exact fun h => ⟨names, hne, h, rfl⟩

end SqlCompose
