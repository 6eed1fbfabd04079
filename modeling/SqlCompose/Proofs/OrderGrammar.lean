import SqlCompose.Proofs.JsonMembers
import SqlCompose.Proofs.Traversals

/-!
# The grammar of sort specifications

A sort specification is an object whose members, apart from further objects, denote directions. It
is flattened into one field for each of them in document order, and the first member that denotes no
direction is the reason for which it is refused.
-/

namespace SqlCompose

def Direction.number : Direction → Int
  | asc => 1
  | desc => -1

def Direction.word : Direction → String
  | asc => "asc"
  | desc => "desc"

/-- The values that stand for a direction: its number as an integer, and its word in any ASCII
letter case. -/
inductive Json.Denotes : Json → Direction → Prop where
  | number (d : Direction) : Denotes (.integer d.number) d
  | word {s : String} {d : Direction} (h : s.toList.map Char.toLower = d.word.toList) :
    Denotes (.string s) d

lemma Json.denotes_integer_iff {n : Int} {d : Direction} :
    (integer n).Denotes d ↔ n = d.number := by
  refine ⟨fun h => ?_, fun h => h ▸ .number d⟩
  cases h
  rfl

/-- What is wrong with a member that denotes no direction. -/
def SortFault.ofMember (key : String) : Json → SortFault
  | .integer n => if Json.isSigned64 n then .direction n else .notInteger key
  | .float _ => .notInteger key
  | .string s => .unknownDirection s key
  | j => .unsupported j key

namespace Direction

variable {key : String} {j : Json} {d : Direction} {e : QueryError}

lemma ofNumber_of_ne {n : Int} (h : ∀ d, n ≠ number d) :
    ofNumber n = .error (.invalidSort (.direction n)) := by
  have hone : n ≠ 1 := h asc
  have hminusOne : n ≠ -1 := h desc
  rw [ofNumber, if_neg hone, if_neg hminusOne]

lemma ofWord?_eq_some_iff {s : String} :
    ofWord? s = some d ↔ s.toList.map Char.toLower = d.word.toList := by
  rw [ofWord?]
  by_cases hasc : s.toList.map Char.toLower = "asc".toList
  · rw [hasc]
    cases d <;> decide
  · by_cases hdesc : s.toList.map Char.toLower = "desc".toList
    · rw [hdesc]
      cases d <;> decide
    · cases d <;> simp_all [word]

lemma ofJson_of_denotes (h : j.Denotes d) : ofJson key j = .ok d := by
  cases h with
  | number => cases d <;> rfl
  | word h => rw [ofJson, ofWord?_eq_some_iff.2 h]

lemma ofJson_of_not_denotes (h : ¬ ∃ d, j.Denotes d) :
    ofJson key j = .error (.invalidSort (.ofMember key j)) := by
  cases j with
  | integer n =>
    have hne : ∀ d, n ≠ number d := fun d hd => h ⟨d, Json.denotes_integer_iff.2 hd⟩
    rw [ofJson, SortFault.ofMember, ofNumber_of_ne hne]
    split <;> rfl
  | string s =>
    have hnone : ofWord? s = none :=
      Option.eq_none_iff_forall_ne_some.2 fun d hd => h ⟨d, .word (ofWord?_eq_some_iff.1 hd)⟩
    rw [ofJson, hnone]
    rfl
  | _ => rfl

lemma ofJson_eq_ok_iff : ofJson key j = .ok d ↔ j.Denotes d := by
  refine ⟨fun h => ?_, ofJson_of_denotes⟩
  by_cases hdenotes : ∃ d, j.Denotes d
  · obtain ⟨d', hd'⟩ := hdenotes
    rw [ofJson_of_denotes hd'] at h
    exact Except.ok.inj h ▸ hd'
  · rw [ofJson_of_not_denotes hdenotes] at h
    contradiction

lemma ofJson_eq_error_iff :
    ofJson key j = .error e ↔ (¬ ∃ d, j.Denotes d) ∧ e = .invalidSort (.ofMember key j) := by
  constructor
  · intro h
    have hnone : ¬ ∃ d, j.Denotes d := by
      rintro ⟨d, hd⟩
      rw [ofJson_of_denotes hd] at h
      contradiction
    rw [ofJson_of_not_denotes hnone] at h
    exact ⟨hnone, (Except.error.inj h).symm⟩
  · rintro ⟨hnone, rfl⟩
    exact ofJson_of_not_denotes hnone

end Direction

namespace RowOrder

/-- The fields of the members that denote directions, in order. -/
def Orders (ms : List (String × Json)) (fields : List (String × Direction)) : Prop :=
  List.Forall₂ (fun m p => p.1 = ".".intercalate m.keys ∧ m.value.Denotes p.2) (Json.leaves ms)
    fields

lemma ofMembers_eq_ok_iff {ms : List (String × Json)} {fields : List (String × Direction)} :
    (∃ s, ofMembers ms = .ok s ∧ s.flatten none = fields) ↔ Orders ms fields := by
  rw [← map_eq_ok_iff, map_flatten_ofMembers, mapM_eq_ok_iff, Orders]
  have hfield : ∀ (m : Json.Member) (p : String × Direction),
      ((Direction.ofJson m.key m.value).map fun d => (m.path none, d)) = .ok p ↔
        p.1 = ".".intercalate m.keys ∧ m.value.Denotes p.2 := by
    rintro m ⟨path, d⟩
    have hpath : m.path none = ".".intercalate m.keys := rfl
    simp only [map_eq_ok_iff, Direction.ofJson_eq_ok_iff, Prod.mk.injEq, hpath]
    constructor
    · rintro ⟨d', hd, rfl, rfl⟩
      exact ⟨rfl, hd⟩
    · rintro ⟨rfl, hd⟩
      exact ⟨d, hd, rfl, rfl⟩
  simp only [hfield]

lemma ofMembers_eq_error_iff {ms : List (String × Json)} {e : QueryError} :
    ofMembers ms = .error e ↔
      ∃ before m after, Json.leaves ms = before ++ m :: after ∧
        (∀ b ∈ before, ∃ d, b.value.Denotes d) ∧ (¬ ∃ d, m.value.Denotes d) ∧
        e = .invalidSort (.ofMember m.key m.value) := by
  have hok : ∀ m : Json.Member, (∃ p,
      ((Direction.ofJson m.key m.value).map fun d => (m.path none, d)) = .ok p) ↔
        ∃ d, m.value.Denotes d := by
    intro m
    simp [map_eq_ok_iff, Direction.ofJson_eq_ok_iff]
  have hflatten : (ofMembers ms).map (flatten none) = .error e ↔ ofMembers ms = .error e :=
    map_eq_error_iff
  rw [← hflatten, map_flatten_ofMembers, mapM_eq_error_iff]
  simp only [hok, map_eq_error_iff, Direction.ofJson_eq_error_iff]

lemma ofMembers_isOk_iff {ms : List (String × Json)} :
    (∃ s, ofMembers ms = .ok s) ↔ ∀ m ∈ Json.leaves ms, ∃ d, m.value.Denotes d := by
  constructor
  · rintro ⟨s, hs⟩ m hm
    have horders := ofMembers_eq_ok_iff.1 ⟨s, hs, rfl⟩
    obtain ⟨i, hi, rfl⟩ := List.mem_iff_getElem.1 hm
    exact ⟨_, (horders.get hi (horders.length_eq ▸ hi)).2⟩
  · intro h
    cases hms : ofMembers ms with
    | ok s => exact ⟨s, rfl⟩
    | error e =>
      obtain ⟨before, m, after, hsplit, -, hnone, -⟩ := ofMembers_eq_error_iff.1 hms
      exact absurd (h m (by simp [hsplit])) hnone

lemma clause_eq_empty_iff (fields : List (String × Direction)) :
    clause fields = "" ↔ fields = [] := by
  cases fields with
  | nil => simp [clause]
  | cons p fields => simp [clause]

lemma ofJson_object (ms : List (String × Json)) : ofJson (.object ms) = ofMembers ms := by
  rw [ofJson, ofObject?]

lemma ofJson_of_ne_object {j : Json} (h : ∀ ms, j ≠ .object ms) :
    ofJson j = .error (.invalidSort (.notObject j)) := by
  cases j with
  | object ms => exact absurd rfl (h ms)
  | _ => rfl

/-- A JSON value is a sort specification exactly when it is an object whose members, at any depth
and apart from further objects, denote directions. It is flattened into one field for each of them.
Any other value is refused because it is no object, or for its first member that denotes no
direction. -/
theorem ofJson_grammar (j : Json) :
    ((∃ s, ofJson j = .ok s) ↔
        ∃ ms, j = .object ms ∧ ∀ m ∈ Json.leaves ms, ∃ d, m.value.Denotes d) ∧
      (∀ s, ofJson j = .ok s → ∃ ms, j = .object ms ∧ Orders ms (s.flatten none) ∧
        (clause (s.flatten none) = "" ↔ Json.leaves ms = [])) ∧
      ∀ e, ofJson j = .error e ↔
        ((∀ ms, j ≠ .object ms) ∧ e = .invalidSort (.notObject j)) ∨
          ∃ ms before m after, j = .object ms ∧ Json.leaves ms = before ++ m :: after ∧
            (∀ b ∈ before, ∃ d, b.value.Denotes d) ∧ (¬ ∃ d, m.value.Denotes d) ∧
            e = .invalidSort (.ofMember m.key m.value) := by
  by_cases hobject : ∃ ms, j = .object ms
  · obtain ⟨ms, rfl⟩ := hobject
    rw [ofJson_object]
    refine ⟨?_, fun s hs => ?_, fun e => ?_⟩
    · rw [ofMembers_isOk_iff]
      simp
    · have horders := ofMembers_eq_ok_iff.1 ⟨s, hs, rfl⟩
      refine ⟨ms, rfl, horders, ?_⟩
      rw [clause_eq_empty_iff, ← List.length_eq_zero_iff, ← List.length_eq_zero_iff,
        horders.length_eq]
    · rw [ofMembers_eq_error_iff]
      simp
  · have hne : ∀ ms, j ≠ .object ms := not_exists.1 hobject
    rw [ofJson_of_ne_object hne]
    refine ⟨by simp [hne], fun s hs => by contradiction, fun e => ?_⟩
    simp [hne, eq_comm]

/-- Directions in several spellings at several depths, and an object without members. -/
def spelled : Json :=
  .object [("z", .integer 1),
    ("a", .object [("y", .integer (-1)), ("b", .object [("x", .string "aSc")])]),
    ("e", .object []), ("m__gt", .string "DESC")]

theorem ofJson_grammar_spelled :
    let s : RowOrder := .field "z" .asc (.nested "a"
      (.field "y" .desc (.nested "b" (.field "x" .asc .empty) .empty))
      (.nested "e" .empty (.field "m__gt" .desc .empty)))
    ofJson spelled = .ok s ∧
      s.flatten none = [("z", .asc), ("a.y", .desc), ("a.b.x", .asc), ("m__gt", .desc)] ∧
      ∃ ms, spelled = .object ms ∧ Orders ms (s.flatten none) ∧
        (clause (s.flatten none) = "" ↔ Json.leaves ms = []) := by
  intro s
  have hok : ofJson spelled = .ok s := by rfl
  exact ⟨hok, by decide, (ofJson_grammar spelled).2.1 s hok⟩

end RowOrder

end SqlCompose
