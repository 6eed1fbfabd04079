import SqlCompose.Proofs.Identifiers
import SqlCompose.Proofs.Traversals

/-!
# Grammar of table names

A table name is one identifier or two with a point between them, none of them a reserved word in any
letter case. A text of any other form is refused for the first thing that is wrong with it: as a whole,
and then in its leftmost segment that is no name.
-/

namespace SqlCompose

lemma toNat_toUpper (c : Char) :
    c.toUpper.toNat = if 97 ≤ c.toNat ∧ c.toNat ≤ 122 then c.toNat - 32 else c.toNat := by
  have hfirst : 'a'.val.toNat = 97 := rfl
  have hlast : 'z'.val.toNat = 122 := rfl
  have hshift : ('A'.val - 'a'.val).toNat = 2 ^ 32 - 32 := rfl
  unfold Char.toUpper
  simp only [Char.toNat, UInt32.le_iff_toNat_le, hfirst, hlast]
  split
  · rw [UInt32.toNat_add, hshift]
    omega
  · rfl

lemma toNat_toLower (c : Char) :
    c.toLower.toNat = if 65 ≤ c.toNat ∧ c.toNat ≤ 90 then c.toNat + 32 else c.toNat := by
  have hfirst : 'A'.val.toNat = 65 := rfl
  have hlast : 'Z'.val.toNat = 90 := rfl
  have hshift : ('a'.val - 'A'.val).toNat = 32 := rfl
  unfold Char.toLower
  simp only [Char.toNat, UInt32.le_iff_toNat_le, hfirst, hlast]
  split
  · rw [UInt32.toNat_add, hshift]
    omega
  · rfl

lemma toUpper_eq_iff_toLower_eq (c d : Char) : c.toUpper = d.toUpper ↔ c.toLower = d.toLower := by
  rw [← Char.toNat_inj, ← Char.toNat_inj, toNat_toUpper, toNat_toUpper, toNat_toLower,
    toNat_toLower]
  grind

namespace TableName

def reservedWords : List String :=
  ["all", "alter", "and", "any", "array", "as", "asof", "between", "by", "delete", "distinct",
    "final", "format", "from", "global", "group", "having", "in", "insert", "join", "like", "limit",
    "not", "null", "offset", "on", "or", "order", "prewhere", "sample", "select", "settings",
    "table", "union", "update", "where"]

/-- A reserved word in any letter case. -/
def IsKeyword (segment : String) : Prop :=
  ∃ word ∈ reservedWords, segment.toList.map Char.toLower = word.toList

/-- An identifier that is no reserved word. -/
def IsSegment (segment : String) : Prop :=
  IsIdentifier segment ∧ ¬ IsKeyword segment

/-- One segment, or two with a point between them. -/
def IsTableName (name : String) : Prop :=
  IsSegment name ∨
    ∃ database table, IsSegment database ∧ IsSegment table ∧ name = database ++ "." ++ table

/-- The first thing that is wrong with a segment. -/
inductive SegmentFault : String → Fault → Prop where
  | empty : SegmentFault "" .emptySegment
  | start {segment : String} (hne : segment ≠ "")
    (h : ∀ c ∈ segment.toList.head?, ¬ StartsIdentifier c) :
    SegmentFault segment (.badStart segment)
  | character {segment : String} (hstart : ∃ c ∈ segment.toList.head?, StartsIdentifier c)
    (h : ∃ c ∈ segment.toList, ¬ ContinuesIdentifier c) :
    SegmentFault segment (.badCharacter segment)
  | reserved {segment : String} (hidentifier : IsIdentifier segment) (h : IsKeyword segment) :
    SegmentFault segment (.reserved segment)

/-- A text is made of segments without points. -/
def Segments (name : String) (segments : List String) : Prop :=
  segments ≠ [] ∧ (∀ segment ∈ segments, '.' ∉ segment.toList) ∧
    name = ".".intercalate segments

/-- The first thing that is wrong with a text that should be a table name. -/
inductive FirstFault : String → Fault → Prop where
  | empty : FirstFault "" .empty
  | tooMany {name : String} {segments : List String} (h : Segments name segments)
    (hmany : 2 < segments.length) : FirstFault name (.tooManySegments name)
  | segment {name segment : String} {before after : List String} {f : Fault} (hne : name ≠ "")
    (h : Segments name (before ++ segment :: after))
    (hfew : (before ++ segment :: after).length ≤ 2) (hbefore : ∀ s ∈ before, IsSegment s)
    (hsegment : SegmentFault segment f) : FirstFault name f

lemma exists_mem_keywords_iff (cs : List Char) :
    (∃ word ∈ keywords, word.toList.map Char.toLower = cs) ↔
      ∃ word ∈ reservedWords, cs = word.toList := by
  have hperm : (keywords.map fun word => word.toList.map Char.toLower).Perm
      (reservedWords.map String.toList) := by
    decide
  have hmem : cs ∈ keywords.map (fun word => word.toList.map Char.toLower) ↔
      cs ∈ reservedWords.map String.toList := hperm.mem_iff
  simpa only [List.mem_map, eq_comm (a := cs)] using hmem

lemma isReserved_iff (segment : String) :
    isReserved segment.toList = true ↔ IsKeyword segment := by
  have hupper : ∀ word ∈ keywords, word.toList.map Char.toUpper = word.toList := by decide
  have hcase : ∀ cs ds : List Char,
      cs.map Char.toUpper = ds.map Char.toUpper ↔ cs.map Char.toLower = ds.map Char.toLower := by
    intro cs ds
    simp only [← List.forall₂_eq_eq_eq, List.forall₂_map_left_iff, List.forall₂_map_right_iff,
      toUpper_eq_iff_toLower_eq]
  simp only [isReserved, List.any_eq_true, decide_eq_true_eq]
  refine Iff.trans (exists_congr fun word => and_congr_right fun hword => ?_)
    (exists_mem_keywords_iff (segment.toList.map Char.toLower))
  rw [← hcase, hupper word hword]

lemma any_startsName_iff (segment : String) :
    segment.toList.head?.any startsName = true ↔
      ∃ c ∈ segment.toList.head?, StartsIdentifier c := by
  simp only [Option.any_eq_true, startsName_iff, Option.mem_def]

lemma all_continuesName_iff (segment : String) :
    segment.toList.all continuesName = true ↔ ∀ c ∈ segment.toList, ContinuesIdentifier c := by
  simp only [List.all_eq_true, continuesName_iff]

lemma checkSegment_eq (segment : String) :
    checkSegment segment.toList =
      if segment = "" then .error .emptySegment
      else if ¬ segment.toList.head?.any startsName = true then .error (.badStart segment)
      else if ¬ segment.toList.all continuesName = true then .error (.badCharacter segment)
      else if isReserved segment.toList then .error (.reserved segment)
      else .ok () := by
  rcases hsegment : segment.toList with _ | ⟨c, rest⟩
  · rw [if_pos (String.toList_eq_nil_iff.1 hsegment), checkSegment]
  · have hne : segment ≠ "" := by
      rintro rfl
      contradiction
    have htext : String.ofList (c :: rest) = segment := by
      rw [← hsegment, String.ofList_toList]
    simp only [checkSegment, htext, hne, if_false, List.head?_cons, Option.any_some,
      Bool.not_eq_true', Bool.not_eq_true]

lemma ne_empty_of_starts {segment : String}
    (h : ∃ c ∈ segment.toList.head?, StartsIdentifier c) : segment ≠ "" := by
  rintro rfl
  obtain ⟨c, hc, -⟩ := h
  contradiction

lemma checkSegment_of_starts {segment : String}
    (h : ∃ c ∈ segment.toList.head?, StartsIdentifier c) :
    checkSegment segment.toList =
      if ¬ segment.toList.all continuesName = true then .error (.badCharacter segment)
      else if isReserved segment.toList then .error (.reserved segment)
      else .ok () := by
  rw [checkSegment_eq, if_neg (ne_empty_of_starts h), if_neg (not_not.2 ((any_startsName_iff _).2 h))]

lemma checkSegment_of_isIdentifier {segment : String} (h : IsIdentifier segment) :
    checkSegment segment.toList =
      if isReserved segment.toList then .error (.reserved segment) else .ok () := by
  rw [checkSegment_of_starts h.1, if_neg (not_not.2 ((all_continuesName_iff _).2 h.2))]

lemma checkSegment_of_isSegment {segment : String} (h : IsSegment segment) :
    checkSegment segment.toList = .ok () := by
  rw [checkSegment_of_isIdentifier h.1, if_neg (mt (isReserved_iff segment).1 h.2)]

lemma checkSegment_of_segmentFault {segment : String} {f : Fault} (h : SegmentFault segment f) :
    checkSegment segment.toList = .error f := by
  cases h with
  | empty => rfl
  | start hne h =>
    rw [checkSegment_eq, if_neg hne, if_pos (mt (any_startsName_iff segment).1 (by simpa using h))]
  | character hstart h =>
    rw [checkSegment_of_starts hstart,
      if_pos (mt (all_continuesName_iff segment).1 (by simpa using h))]
  | reserved hidentifier h =>
    rw [checkSegment_of_isIdentifier hidentifier, if_pos ((isReserved_iff segment).2 h)]

/-- Something is wrong with every text that is no segment. -/
lemma isSegment_or_segmentFault (segment : String) :
    IsSegment segment ∨ ∃ f, SegmentFault segment f := by
  by_cases hne : segment = ""
  · subst hne
    exact .inr ⟨_, .empty⟩
  by_cases hstart : ∃ c ∈ segment.toList.head?, StartsIdentifier c
  · by_cases hall : ∃ c ∈ segment.toList, ¬ ContinuesIdentifier c
    · exact .inr ⟨_, .character hstart hall⟩
    · have hidentifier : IsIdentifier segment := ⟨hstart, by simpa using hall⟩
      by_cases hkeyword : IsKeyword segment
      · exact .inr ⟨_, .reserved hidentifier hkeyword⟩
      · exact .inl ⟨hidentifier, hkeyword⟩
  · exact .inr ⟨_, .start hne (by simpa using hstart)⟩

lemma checkSegment_eq_ok_iff (segment : String) :
    checkSegment segment.toList = .ok () ↔ IsSegment segment := by
  refine ⟨fun h => ?_, checkSegment_of_isSegment⟩
  obtain hsegment | ⟨f, hf⟩ := isSegment_or_segmentFault segment
  · exact hsegment
  · rw [checkSegment_of_segmentFault hf] at h
    contradiction

lemma checkSegment_eq_error_iff (segment : String) (f : Fault) :
    checkSegment segment.toList = .error f ↔ SegmentFault segment f := by
  refine ⟨fun h => ?_, checkSegment_of_segmentFault⟩
  obtain hsegment | ⟨g, hg⟩ := isSegment_or_segmentFault segment
  · rw [checkSegment_of_isSegment hsegment] at h
    contradiction
  · rw [checkSegment_of_segmentFault hg] at h
    exact Except.error.inj h ▸ hg

/-- The parts of a text that is cut at its points. -/
def segments (name : String) : List String :=
  (name.toList.splitOn '.').map String.ofList

/-- A text is made of its parts, and in no other way of segments. -/
lemma segments_iff (name : String) (others : List String) :
    Segments name others ↔ others = segments name := by
  constructor
  · rintro ⟨hne, hpoint, rfl⟩
    rw [segments, splitOn_point_intercalate hne hpoint]
    simp
  · rintro rfl
    have hpoint : ∀ part ∈ name.toList.splitOn '.', '.' ∉ part := by
      generalize name.toList = cs
      induction cs with
      | nil => simp
      | cons c cs ih =>
        rw [List.splitOn_cons_eq_if_modifyHead]
        obtain ⟨part, parts, hparts⟩ := List.exists_cons_of_ne_nil (List.splitOn_ne_nil '.' cs)
        rw [hparts, List.forall_mem_cons] at ih
        rw [hparts, List.modifyHead_cons]
        split
        · exact List.forall_mem_cons.2 ⟨by simp, List.forall_mem_cons.2 ih⟩
        · rename_i hc
          refine List.forall_mem_cons.2 ⟨fun hmem => ?_, ih.2⟩
          obtain rfl | hmem := List.mem_cons.1 hmem
          · exact hc (beq_self_eq_true '.')
          · exact ih.1 hmem
    refine ⟨by simp [segments], ?_, ?_⟩
    · simpa [segments] using hpoint
    · rw [← String.toList_inj, String.toList_intercalate, segments, List.map_map]
      have htexts : String.toList ∘ String.ofList = id := by
        funext cs
        simp
      rw [htexts, List.map_id]
      exact (List.intercalate_splitOn '.').symm

lemma check_eq (name : String) :
    check name =
      if name = "" then .error .empty
      else if 2 < (segments name).length then .error (.tooManySegments name)
      else (segments name).forM fun segment => checkSegment segment.toList := by
  have hforM : (segments name).forM (fun segment => checkSegment segment.toList) =
      (name.toList.splitOn '.').forM checkSegment := by
    simp only [List.forM_eq_forM, segments, List.forM_map, String.toList_ofList]
  rw [check, hforM, segments, List.length_map]

lemma isTableName_iff (name : String) :
    IsTableName name ↔ (segments name).length ≤ 2 ∧ ∀ segment ∈ segments name, IsSegment segment := by
  constructor
  · rintro (h | ⟨database, table, hdatabase, htable, rfl⟩)
    · have hsegments : Segments name [name] :=
        ⟨by simp, by simpa using h.1.point_not_mem, by simp⟩
      rw [← (segments_iff _ _).1 hsegments]
      simpa using h
    · have hsegments : Segments (database ++ "." ++ table) [database, table] :=
        ⟨by simp, by simp [hdatabase.1.point_not_mem, htable.1.point_not_mem], by simp⟩
      rw [← (segments_iff _ _).1 hsegments]
      simpa using ⟨hdatabase, htable⟩
  · rintro ⟨hlength, hall⟩
    obtain ⟨hne, -, hname⟩ := (segments_iff name _).2 rfl
    generalize segments name = parts at *
    match parts with
    | [] => contradiction
    | [table] =>
      refine .inl ?_
      rw [hname]
      simpa using hall
    | [database, table] =>
      simp only [List.forall_mem_cons] at hall
      exact .inr ⟨database, table, hall.1, hall.2.1, by simpa using hname⟩
    | _ :: _ :: _ :: _ =>
      simp only [List.length_cons] at hlength
      omega

lemma segments_empty : segments "" = [""] := by
  rw [segments, String.toList_empty, List.splitOn_nil]
  rfl

lemma check_eq_ok_iff (name : String) : check name = .ok () ↔ IsTableName name := by
  rw [check_eq, isTableName_iff]
  by_cases hempty : name = ""
  · subst hempty
    have hsegment : ¬ IsSegment "" := fun h => not_isIdentifier_empty h.1
    simp [segments_empty, hsegment]
  rw [if_neg hempty]
  by_cases hmany : 2 < (segments name).length
  · rw [if_pos hmany]
    simp [Nat.not_le.2 hmany]
  · rw [if_neg hmany, forM_eq_ok_iff]
    simp only [checkSegment_eq_ok_iff, Nat.not_lt.1 hmany, true_and]

lemma check_eq_error_iff (name : String) (f : Fault) :
    check name = .error f ↔ FirstFault name f := by
  rw [check_eq]
  constructor
  · intro h
    split at h
    · rename_i hempty
      subst hempty
      obtain rfl := Except.error.inj h
      exact .empty
    rename_i hempty
    split at h
    · rename_i hmany
      obtain rfl := Except.error.inj h
      exact .tooMany ((segments_iff name _).2 rfl) hmany
    · rename_i hfew
      obtain ⟨before, segment, after, hparts, hbefore, hsegment⟩ := forM_eq_error_iff.1 h
      simp only [checkSegment_eq_ok_iff, checkSegment_eq_error_iff] at hbefore hsegment
      exact .segment hempty ((segments_iff name _).2 hparts.symm)
        (hparts ▸ Nat.not_lt.1 hfew) hbefore hsegment
  · intro h
    cases h with
    | empty => rfl
    | tooMany h hmany =>
      obtain rfl := (segments_iff name _).1 h
      have hempty : name ≠ "" := by
        rintro rfl
        simp [segments_empty] at hmany
      rw [if_neg hempty, if_pos hmany]
    | segment hempty h hfew hbefore hsegment =>
      rw [if_neg hempty, ← (segments_iff name _).1 h, if_neg (Nat.not_lt.2 hfew),
        forM_eq_error_iff]
      simp only [checkSegment_eq_ok_iff, checkSegment_eq_error_iff]
      exact ⟨_, _, _, rfl, hbefore, hsegment⟩

/-- A text is accepted exactly if it is a table name, and every other text is refused for the first
thing that is wrong with it. -/
theorem check_grammar (name : String) :
    (check name = .ok () ↔ IsTableName name) ∧
      ∀ f, check name = .error f ↔ FirstFault name f :=
  ⟨check_eq_ok_iff name, check_eq_error_iff name⟩

/-- The segment on the left decides, also where the one on the right is no identifier. -/
example : check "Final.1" = .error (.reserved "Final") :=
  rfl

end TableName

end SqlCompose
