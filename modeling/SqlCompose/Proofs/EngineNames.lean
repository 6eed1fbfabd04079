import SqlCompose.Proofs.Trimming
import SqlCompose.Statement

/-!
# Names of engines

A known engine is recognised by exactly the texts of one grammar: its name, perhaps with the word for
replication right in front of it, blanks around that, and arguments behind an opening parenthesis. A
text of any other form stands for itself without the blanks at its ends. What is recognised is found
again in its own name.
-/

namespace SqlCompose.Engine

open Text

/-- Arguments begin with an opening parenthesis, and there may be none. -/
def IsArguments (cs : List Char) : Prop :=
  ∀ c ∈ cs.head?, c = '('

instance : DecidablePred IsArguments := fun cs =>
  decidable_of_iff ((cs.head?.all fun c => c = '(') = true) (by simp [IsArguments, Option.all_eq_true])

/-- A text in which blanks, arguments and nothing else stand around a word. -/
def Surrounds (word n : List Char) : Prop :=
  ∃ front back arguments, n = front ++ word ++ back ++ arguments ∧ Blanks front ∧ Blanks back ∧
    IsArguments arguments

/-- The written forms of an engine. -/
def Written (e : Engine) (n : String) : Prop :=
  Surrounds e.name.toList n.toList ∨ Surrounds (replication ++ e.name).toList n.toList

/-- A text up to its arguments, without blanks around. -/
def base (n : List Char) : List Char :=
  trimList (n.takeWhile (· ≠ '('))

section base

variable {n word : List Char}

lemma beforeArguments_blanks {cs : List Char} (h : Blanks cs) (rest : List Char) :
    (cs ++ rest).takeWhile (· ≠ '(') = cs ++ rest.takeWhile (· ≠ '(') := by
  refine List.takeWhile_append_of_pos fun c hc => ?_
  have hparen : isBlank '(' = false := by decide
  exact decide_eq_true fun he => by simp [he ▸ h c hc] at hparen

/-- The blanks around a text are left aside before its arguments are cut off or afterwards. -/
lemma base_trimList (n : List Char) : base (trimList n) = base n := by
  obtain ⟨front, back, hfront, hback, hn⟩ := eq_padded_trimList n
  generalize trimList n = rest at hn
  obtain rfl := hn
  rw [base, base, List.append_assoc, beforeArguments_blanks hfront, List.takeWhile_append]
  split
  · rename_i hlength
    have hall : rest.takeWhile (· ≠ '(') = rest :=
      (List.takeWhile_prefix _).eq_of_length hlength
    have hrest : (back ++ []).takeWhile (· ≠ '(') = back ++ [] := beforeArguments_blanks hback []
    rw [List.append_nil] at hrest
    rw [hall, hrest, ← List.append_assoc, trimList_padded hfront hback]
  · rw [← List.append_nil (front ++ _), trimList_padded hfront .nil]

lemma base_arguments (n arguments : List Char) : base (n ++ '(' :: arguments) = base n := by
  rw [base, base, List.takeWhile_append]
  split
  · rename_i hlength
    rw [(List.takeWhile_prefix _).eq_of_length hlength]
    simp
  · rfl

/-- A word right in front of a text becomes part of what is left of the text, which is a front of the
text. -/
lemma base_append (hne : word ≠ []) (htrimmed : Trimmed word) (hparen : '(' ∉ word)
    (hn : ∀ c ∈ n.head?, isBlank c = false) : base (word ++ n) = word ++ base n ∧ base n <+: n := by
  have hword : (word ++ n).takeWhile (· ≠ '(') = word ++ n.takeWhile (· ≠ '(') :=
    List.takeWhile_append_of_pos fun c hc => decide_eq_true fun he => hparen (he ▸ hc)
  have hhead : ∀ c ∈ (n.takeWhile (· ≠ '(')).head?, isBlank c = false := by
    rw [List.head?_takeWhile]
    exact fun c hc => hn c (Option.mem_filter_iff.1 hc).1
  obtain ⟨back, hback, htext⟩ := exists_eq_trimList_append hhead
  rw [base, base, hword]
  have hprefix : trimList (n.takeWhile (· ≠ '(')) <+: n.takeWhile (· ≠ '(') := ⟨back, htext.symm⟩
  refine ⟨trimList_eq_iff.2
    ⟨htrimmed.append hne (trimmed_trimList _).2, [], back, .nil, hback, ?_⟩,
    hprefix.trans (List.takeWhile_prefix _)⟩
  rw [List.nil_append, List.append_assoc, ← htext]

lemma base_eq_iff (htrimmed : Trimmed word) (hparen : '(' ∉ word) :
    base n = word ↔ Surrounds word n := by
  rw [base, trimList_eq_iff]
  constructor
  · rintro ⟨-, front, back, hfront, hback, hn⟩
    refine ⟨front, back, n.dropWhile (· ≠ '('), ?_, hfront, hback, fun c hc => ?_⟩
    · rw [← hn, List.takeWhile_append_dropWhile]
    · have hstop := List.head?_dropWhile_not (· ≠ '(') n
      rw [Option.mem_def.1 hc] at hstop
      simpa using hstop
  · rintro ⟨front, back, arguments, rfl, hfront, hback, harguments⟩
    have hword : (word ++ (back ++ arguments)).takeWhile (· ≠ '(') =
        word ++ (back ++ arguments).takeWhile (· ≠ '(') :=
      List.takeWhile_append_of_pos fun c hc => decide_eq_true fun he => hparen (he ▸ hc)
    have hstop : arguments.takeWhile (· ≠ '(') = [] := by
      cases arguments with
      | nil => rfl
      | cons c cs => simp [harguments c rfl]
    refine ⟨htrimmed, front, back, hfront, hback, ?_⟩
    rw [List.append_assoc, List.append_assoc, beforeArguments_blanks hfront, hword,
      beforeArguments_blanks hback, hstop, List.append_nil, List.append_assoc]

end base

/-- What is left of a text without the word for replication in front. -/
def unreplicated (cs : List Char) : List Char :=
  (after? replication.toList cs).getD cs

lemma ofName_eq (n : String) :
    ofName n = (known.find? fun e => e.name.toList = unreplicated (base n.toList)).getD
      (other (trim n)) := by
  rw [← base_trimList]
  rfl

/-- No engine with a name of its own is missing among those that are looked up. -/
lemma mem_known_iff (e : Engine) : e ∈ known ↔ e.isKnown = true := by
  cases e with
  | other name => simp [known, isKnown]
  | _ => decide

lemma find?_name_eq_some_iff {cs : List Char} {e : Engine} :
    known.find? (fun e => e.name.toList = cs) = some e ↔ e.isKnown = true ∧ e.name.toList = cs := by
  constructor
  · intro h
    exact ⟨(mem_known_iff e).1 (List.mem_of_find?_eq_some h), by simpa using List.find?_some h⟩
  · rintro ⟨he, rfl⟩
    have hall : ∀ e ∈ known, known.find? (fun other => other.name.toList = e.name.toList) = some e := by
      decide
    exact hall e ((mem_known_iff e).2 he)

lemma unreplicated_eq_name_iff {e : Engine} (he : e.isKnown = true) {cs : List Char} :
    unreplicated cs = e.name.toList ↔
      cs = e.name.toList ∨ cs = (replication ++ e.name).toList := by
  rw [unreplicated, String.toList_append]
  constructor
  · intro h
    cases hcs : after? replication.toList cs with
    | none => exact .inl (by rwa [hcs] at h)
    | some rest =>
      rw [hcs] at h
      exact .inr (h ▸ append_of_after? hcs)
  · rintro (rfl | rfl)
    · have hall : ∀ e ∈ known, after? replication.toList e.name.toList = none := by decide
      rw [hall e ((mem_known_iff e).2 he)]
      rfl
    · rw [after?_append]
      rfl

lemma ofName_eq_iff_base {e : Engine} (he : e.isKnown = true) (n : String) :
    ofName n = e ↔ base n.toList = e.name.toList ∨ base n.toList = (replication ++ e.name).toList := by
  rw [ofName_eq, ← unreplicated_eq_name_iff he]
  cases hfind : known.find? fun e => e.name.toList = unreplicated (base n.toList) with
  | none =>
    have hname := List.find?_eq_none.1 hfind e ((mem_known_iff e).2 he)
    simp only [Option.getD_none]
    constructor
    · rintro rfl
      contradiction
    · exact fun h => absurd h.symm (by simpa using hname)
  | some found =>
    have hfound := find?_name_eq_some_iff.1 hfind
    simp only [Option.getD_some]
    constructor
    · rintro rfl
      exact hfound.2.symm
    · intro h
      have := find?_name_eq_some_iff.2 ⟨he, h.symm⟩
      rw [hfind] at this
      exact Option.some.inj this

lemma isKnown_or_eq_other (n : String) :
    (ofName n).isKnown = true ∨ ofName n = other (trim n) := by
  rw [ofName_eq]
  cases hfind : known.find? fun e => e.name.toList = unreplicated (base n.toList) with
  | none => exact .inr rfl
  | some found => exact .inl (find?_name_eq_some_iff.1 hfind).1

lemma ofName_eq_iff {e : Engine} (he : e.isKnown = true) (n : String) :
    ofName n = e ↔ e.Written n := by
  have hnames : ∀ e ∈ known, ∀ name ∈ [e.name, replication ++ e.name],
      Trimmed name.toList ∧ '(' ∉ name.toList := by
    decide
  have hname := hnames e ((mem_known_iff e).2 he)
  simp only [List.forall_mem_cons] at hname
  rw [ofName_eq_iff_base he, base_eq_iff hname.1.1 hname.1.2, base_eq_iff hname.2.1.1 hname.2.1.2]
  rfl

/-- Two names that stand for one known engine, or neither of them for any. -/
def Agree (m n : String) : Prop :=
  ∀ e : Engine, e.isKnown = true → (ofName m = e ↔ ofName n = e)

lemma agree_arguments (n arguments : String) : Agree (n ++ "(" ++ arguments) n := by
  intro e he
  have htext : (n ++ "(" ++ arguments).toList = n.toList ++ '(' :: arguments.toList := by
    simp [String.toList_append]
  rw [ofName_eq_iff_base he, ofName_eq_iff_base he, htext, base_arguments]

/-- The word for replication can be put in front of a name that does not have it, without a blank
between them. -/
lemma agree_replicated {n : String} (hblank : ∀ c ∈ n.toList.head?, isBlank c = false)
    (hnew : ¬ replication.toList <+: n.toList) : Agree (replication ++ n) n := by
  intro e he
  have hword : replication.toList ≠ [] ∧ Trimmed replication.toList ∧
      '(' ∉ replication.toList := by
    decide
  obtain ⟨hbase, hprefix⟩ := base_append hword.1 hword.2.1 hword.2.2 hblank
  have hnames : ∀ e ∈ known, ¬ replication.toList <+: e.name.toList := by decide
  rw [ofName_eq_iff_base he, ofName_eq_iff_base he, String.toList_append, hbase,
    String.toList_append, List.append_cancel_left_eq]
  constructor
  · rintro (h | h)
    · exact absurd ⟨_, h⟩ (hnames e ((mem_known_iff e).2 he))
    · exact .inl h
  · rintro (h | h)
    · exact .inr h
    · exact absurd ((List.prefix_append _ _).trans (h ▸ hprefix)) hnew

lemma ofName_padded {front back : String} (hfront : Blanks front.toList)
    (hback : Blanks back.toList) (n : String) : ofName (front ++ n ++ back) = ofName n := by
  have htrim : trimList (front ++ n ++ back).toList = trimList n.toList := by
    rw [String.toList_append, String.toList_append, trimList_padded hfront hback]
  simp only [ofName, htrim]

lemma ofName_name (n : String) : ofName (ofName n).name = ofName n := by
  rcases isKnown_or_eq_other n with hn | hn
  · have hall : ∀ e ∈ known, ofName e.name = e := by decide
    exact hall _ ((mem_known_iff _).2 hn)
  · obtain ⟨front, back, hfront, hback, htext⟩ := eq_padded_trimList n.toList
    have hpadding : n = String.ofList front ++ trim n ++ String.ofList back := by
      rw [← String.toList_inj]
      simpa [trim, String.toList_append] using htext
    have htrim : ofName n = ofName (trim n) := by
      conv_lhs => rw [hpadding]
      exact ofName_padded (by simpa using hfront) (by simpa using hback) _
    rw [hn, name, ← htrim, hn]

/-- A text stands for a known engine exactly if it is a written form of that engine, and every other
text for itself without the blanks at its ends. So blanks around a name, arguments behind it and the
word for replication in front of it change neither the engine nor whether its tables may be read with
`FINAL`, and the name of what is recognised is recognised as the same. -/
theorem ofName_grammar (n : String) :
    (∀ e : Engine, e.isKnown = true → (ofName n = e ↔ e.Written n)) ∧
      ((∀ e : Engine, e.isKnown = true → ¬ e.Written n) → ofName n = other (trim n)) ∧
      (∀ front back : String, Blanks front.toList → Blanks back.toList →
        ofName (front ++ n ++ back) = ofName n) ∧
      (∀ arguments, Agree (n ++ "(" ++ arguments) n) ∧
      ((∀ c ∈ n.toList.head?, isBlank c = false) → ¬ replication.toList <+: n.toList →
        Agree (replication ++ n) n) ∧
      (∀ s : Statement, s.table.engine = ofName n →
        ((∃ final, s.final = .ok final) ↔ replacingMergeTree.Written n)) ∧
      ofName (ofName n).name = ofName n := by
  refine ⟨fun e he => ofName_eq_iff he n, fun hnone => ?_,
    fun front back hfront hback => ofName_padded hfront hback n, agree_arguments n,
    agree_replicated, fun s hs => ?_, ofName_name n⟩
  · rcases isKnown_or_eq_other n with hn | hn
    · exact absurd ((ofName_eq_iff hn n).1 rfl) (hnone _ hn)
    · exact hn
  · have hknown : replacingMergeTree.isKnown = true := rfl
    rw [← ofName_eq_iff hknown, Statement.final, isReplacing, hs]
    by_cases h : ofName n = replacingMergeTree <;> simp [h]

/-- Blanks around the name, the word for replication and arguments in which parentheses stand, and the
name of an engine that ends in the name of another. -/
theorem ofName_grammar_replicated :
    replacingMergeTree.Written "\tReplicatedReplacingMergeTree ('/t', toDate(ts))" ∧
      ofName "\tReplicatedReplacingMergeTree ('/t', toDate(ts))" = replacingMergeTree ∧
      versionedCollapsingMergeTree.Written "VersionedCollapsingMergeTree(sign, version) " ∧
      ofName "VersionedCollapsingMergeTree(sign, version) " = versionedCollapsingMergeTree := by
  have hreplacing : replacingMergeTree.Written "\tReplicatedReplacingMergeTree ('/t', toDate(ts))" :=
    .inr ⟨['\t'], [' '], "('/t', toDate(ts))".toList, by decide, by decide, by decide, by decide⟩
  have hversioned : versionedCollapsingMergeTree.Written
      "VersionedCollapsingMergeTree(sign, version) " :=
    .inl ⟨[], [], "(sign, version) ".toList, by decide, by decide, by decide, by decide⟩
  exact ⟨hreplacing, ((ofName_grammar _).1 replacingMergeTree rfl).2 hreplacing, hversioned,
    ((ofName_grammar _).1 versionedCollapsingMergeTree rfl).2 hversioned⟩

end SqlCompose.Engine
