import SqlCompose.Proofs.TableNames
import SqlCompose.Proofs.Trimming
import SqlCompose.Table.Attributes

/-!
# Attributes as one list of entries

Attributes are read as if the entries of those that count stood in one list. The first bad entry of that
list is the answer, and without bad entries the last name and the last engine are checked, in this order.
-/

namespace SqlCompose.TableAttributes

/-- The entries of all attributes that count, in order. -/
def entries (attributes : List Attribute) : List (String × Entry) :=
  (attributes.filter fun a => a.path = "table").flatMap Attribute.entries

/-- A name or an engine with a text. -/
inductive GoodEntry : String × Entry → Prop where
  | name (s : String) : GoodEntry ("name", .text s)
  | engine (s : String) : GoodEntry ("engine", .text s)

/-- What is wrong with an entry: first its key, then what is written after it. -/
inductive BadEntry : String × Entry → Fault → Prop where
  | key {key : String} (entry : Entry) (hname : key ≠ "name") (hengine : key ≠ "engine") :
    BadEntry (key, entry) .unknownKey
  | bare {key : String} (h : key = "name" ∨ key = "engine") : BadEntry (key, .bare) .missingValue
  | other {key : String} (h : key = "name" ∨ key = "engine") : BadEntry (key, .other) .notText

/-- The text of the last entry of a key. -/
def lastText? (key : String) (entries : List (String × Entry)) : Option String :=
  (entries.reverse.find? fun e => e.1 = key).bind fun e => e.2.text?.toOption

/-- What one list of entries says about a table. -/
inductive Outcome (entries : List (String × Entry)) : Except Fault Info → Prop where
  | badEntry {before after : List (String × Entry)} {e : String × Entry} {f : Fault}
    (h : entries = before ++ e :: after) (hbefore : ∀ b ∈ before, GoodEntry b) (he : BadEntry e f) :
    Outcome entries (.error f)
  | missingName (hgood : ∀ e ∈ entries, GoodEntry e) (h : lastText? "name" entries = none) :
    Outcome entries (.error .missingName)
  | badName (hgood : ∀ e ∈ entries, GoodEntry e) {name : String} {reason : TableName.Fault}
    (hname : lastText? "name" entries = some name) (h : TableName.FirstFault name reason) :
    Outcome entries (.error (.badName name reason))
  | blankEngine (hgood : ∀ e ∈ entries, GoodEntry e) {name engine : String}
    (hname : lastText? "name" entries = some name) (htable : TableName.IsTableName name)
    (hengine : lastText? "engine" entries = some engine) (h : Text.Blanks engine.toList) :
    Outcome entries (.error .emptyEngine)
  | info (hgood : ∀ e ∈ entries, GoodEntry e) {name : String}
    (hname : lastText? "name" entries = some name) (htable : TableName.IsTableName name)
    (hengine : ∀ engine ∈ lastText? "engine" entries, ¬ Text.Blanks engine.toList) :
    Outcome entries (.ok ⟨name, lastText? "engine" entries⟩)

lemma goodEntry_or_badEntry (e : String × Entry) : GoodEntry e ∨ ∃ f, BadEntry e f := by
  obtain ⟨key, entry⟩ := e
  by_cases hkey : key = "name" ∨ key = "engine"
  · cases entry with
    | bare => exact .inr ⟨_, .bare hkey⟩
    | other => exact .inr ⟨_, .other hkey⟩
    | text s =>
      obtain rfl | rfl := hkey
      · exact .inl (.name s)
      · exact .inl (.engine s)
  · obtain ⟨hname, hengine⟩ := not_or.1 hkey
    exact .inr ⟨_, .key entry hname hengine⟩

lemma goodEntries_or_firstBad (entries : List (String × Entry)) :
    (∀ e ∈ entries, GoodEntry e) ∨ ∃ before e after f, entries = before ++ e :: after ∧
      (∀ b ∈ before, GoodEntry b) ∧ BadEntry e f := by
  induction entries with
  | nil => exact .inl (by simp)
  | cons e entries ih =>
    obtain he | ⟨f, hf⟩ := goodEntry_or_badEntry e
    · obtain hall | ⟨before, bad, after, f, rfl, hbefore, hf⟩ := ih
      · exact .inl (List.forall_mem_cons.2 ⟨he, hall⟩)
      · exact .inr ⟨e :: before, bad, after, f, rfl, List.forall_mem_cons.2 ⟨he, hbefore⟩, hf⟩
    · exact .inr ⟨[], e, entries, f, rfl, by simp, hf⟩

namespace Draft

lemma add_of_badEntry (d : Draft) {e : String × Entry} {f : Fault} (h : BadEntry e f) :
    d.add e.1 e.2 = .error f := by
  cases h with
  | key entry hname hengine => simp [add, hname, hengine]
  | bare h => obtain rfl | rfl := h <;> rfl
  | other h => obtain rfl | rfl := h <;> rfl

/-- What good entries say together. -/
def ofEntries (entries : List (String × Entry)) : Draft :=
  ⟨lastText? "name" entries, lastText? "engine" entries⟩

/-- One more entry replaces what the entries before it say. -/
lemma add_of_goodEntry (before : List (String × Entry)) {e : String × Entry} (h : GoodEntry e) :
    (ofEntries before).add e.1 e.2 = .ok (ofEntries (before ++ [e])) := by
  cases h <;> simp [add, ofEntries, lastText?, Entry.text?, Except.toOption, bind, Except.bind,
    pure, Except.pure]

lemma foldlM_add_of_goodEntries {entries : List (String × Entry)}
    (h : ∀ e ∈ entries, GoodEntry e) :
    entries.foldlM (fun (d : Draft) e => d.add e.1 e.2) {} = .ok (ofEntries entries) := by
  induction entries using List.reverseRecOn with
  | nil => rfl
  | append_singleton before e ih =>
    obtain ⟨hbefore, he⟩ := List.forall_mem_append.1 h
    have hlast : [e].foldlM (fun (d : Draft) e => d.add e.1 e.2) (ofEntries before) =
        .ok (ofEntries (before ++ [e])) := by
      rw [List.foldlM_cons, add_of_goodEntry before (he e (List.mem_singleton_self e))]
      rfl
    rw [List.foldlM_append, ih hbefore]
    exact hlast

lemma foldlM_add_of_firstBad {before after : List (String × Entry)} {e : String × Entry} {f : Fault}
    (hbefore : ∀ b ∈ before, GoodEntry b) (he : BadEntry e f) :
    (before ++ e :: after).foldlM (fun (d : Draft) e => d.add e.1 e.2) {} = .error f := by
  have hbad : (e :: after).foldlM (fun (d : Draft) e => d.add e.1 e.2) (ofEntries before) =
      .error f := by
    rw [List.foldlM_cons, add_of_badEntry _ he]
    rfl
  rw [List.foldlM_append, foldlM_add_of_goodEntries hbefore]
  exact hbad

end Draft

/-- Attributes are read like the list of their entries. -/
lemma read_eq (attributes : List Attribute) :
    read attributes =
      (entries attributes).foldlM (fun (d : Draft) e => d.add e.1 e.2) {} >>= Draft.info := by
  have hflat : ∀ (counting : List Attribute) (d : Draft),
      (counting.flatMap Attribute.entries).foldlM (fun (d : Draft) e => d.add e.1 e.2) d =
        counting.foldlM Draft.addAll d := by
    intro counting
    induction counting with
    | nil => exact fun d => rfl
    | cons a counting ih =>
      intro d
      rw [List.flatMap_cons, List.foldlM_append, List.foldlM_cons, funext ih]
      rfl
  rw [entries, hflat]
  rfl

lemma trim_eq_empty_iff (s : String) : Text.trim s = "" ↔ Text.Blanks s.toList := by
  rw [Text.trim, ← String.toList_inj, String.toList_ofList, String.toList_empty,
    Text.trimList_eq_nil_iff]

lemma read_of_goodEntries {attributes : List Attribute} (h : ∀ e ∈ entries attributes, GoodEntry e) :
    read attributes = (Draft.ofEntries (entries attributes)).info := by
  rw [read_eq, Draft.foldlM_add_of_goodEntries h]
  rfl

lemma read_of_outcome {attributes : List Attribute} {r : Except Fault Info}
    (h : Outcome (entries attributes) r) : read attributes = r := by
  cases h with
  | badEntry h hbefore he =>
    rw [read_eq, h, Draft.foldlM_add_of_firstBad hbefore he]
    rfl
  | missingName hgood h =>
    rw [read_of_goodEntries hgood]
    simp only [Draft.info, Draft.ofEntries, h]
  | badName hgood hname h =>
    rw [read_of_goodEntries hgood]
    simp only [Draft.info, Draft.ofEntries, hname, (TableName.check_eq_error_iff _ _).2 h]
  | blankEngine hgood hname htable hengine h =>
    rw [read_of_goodEntries hgood]
    simp only [Draft.info, Draft.ofEntries, hname, (TableName.check_eq_ok_iff _).2 htable, hengine,
      Option.any_some, (trim_eq_empty_iff _).2 h, decide_true, if_true]
  | info hgood hname htable hengine =>
    rw [read_of_goodEntries hgood]
    have hblank : (lastText? "engine" (entries attributes)).any (fun e => Text.trim e = "") = false := by
      simpa [Option.any_eq_false, trim_eq_empty_iff] using hengine
    simp only [Draft.info, Draft.ofEntries, hname, (TableName.check_eq_ok_iff _).2 htable, hblank]
    rfl

lemma exists_outcome (entries : List (String × Entry)) : ∃ r, Outcome entries r := by
  obtain hgood | ⟨before, e, after, f, h, hbefore, he⟩ := goodEntries_or_firstBad entries
  · cases hname : lastText? "name" entries with
    | none => exact ⟨_, .missingName hgood hname⟩
    | some name =>
      cases hcheck : TableName.check name with
      | error reason => exact ⟨_, .badName hgood hname ((TableName.check_eq_error_iff _ _).1 hcheck)⟩
      | ok =>
        have htable := (TableName.check_eq_ok_iff name).1 hcheck
        by_cases hengine : ∃ engine ∈ lastText? "engine" entries, Text.Blanks engine.toList
        · obtain ⟨engine, hengine, hblank⟩ := hengine
          exact ⟨_, .blankEngine hgood hname htable hengine hblank⟩
        · exact ⟨_, .info hgood hname htable fun engine he hblank => hengine ⟨engine, he, hblank⟩⟩
  · exact ⟨_, .badEntry h hbefore he⟩

lemma read_eq_iff_outcome (attributes : List Attribute) (r : Except Fault Info) :
    read attributes = r ↔ Outcome (entries attributes) r := by
  refine ⟨fun h => ?_, read_of_outcome⟩
  obtain ⟨other, hother⟩ := exists_outcome (entries attributes)
  rw [← h, read_of_outcome hother]
  exact hother

lemma read_congr {attributes others : List Attribute} (h : entries attributes = entries others) :
    read attributes = read others := by
  rw [read_eq, read_eq, h]

/-- Attributes of other paths make no difference wherever they stand, and the others are read as one
attribute with all their entries. That has one outcome: its first bad entry, or else what its last name
and its last engine say. -/
theorem read_merged (attributes : List Attribute) :
    (∀ before others after, (∀ a ∈ others, a.path ≠ "table") →
      attributes = before ++ others ++ after → read attributes = read (before ++ after)) ∧
      read attributes = read [⟨"table", entries attributes⟩] ∧
      ∀ r, read attributes = r ↔ Outcome (entries attributes) r := by
  refine ⟨?_, read_congr (by simp [entries]), read_eq_iff_outcome attributes⟩
  rintro before others after hothers rfl
  have hnone : others.filter (fun a => a.path = "table") = [] :=
    List.filter_eq_nil_iff.2 fun a ha => by simpa using hothers a ha
  exact read_congr (by simp only [entries, List.filter_append, hnone, List.append_nil])

/-- An attribute of another path with a bad entry does no harm, and neither do a bad name and a blank
engine that are replaced later. -/
theorem read_merged_scattered :
    read [⟨"table", [("name", .text "1sales"), ("engine", .text " ")]⟩,
      ⟨"serde", [("rename", .bare)]⟩,
      ⟨"table", [("engine", .text "Log"), ("name", .text "shop.sales")]⟩] =
        .ok ⟨"shop.sales", some "Log"⟩ := by
  have hwithout := (read_merged _).1
    [⟨"table", [("name", .text "1sales"), ("engine", .text " ")]⟩]
    [⟨"serde", [("rename", .bare)]⟩]
    [⟨"table", [("engine", .text "Log"), ("name", .text "shop.sales")]⟩] (by simp) rfl
  exact hwithout.trans rfl

end SqlCompose.TableAttributes
