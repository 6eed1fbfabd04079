import SqlCompose.Proofs.Entries
import SqlCompose.Query

/-!
# Forcing an operator

A forced operator replaces those that the keys of a filter object select, and nothing else about the
comparisons changes. Each suffix that is lost in this way is logged once, in the order of the
operands, and without a forced operator nothing is logged.
-/

namespace SqlCompose

lemma Session.logAll_nil (σ : Session) : σ.logAll [] = σ := by
  simp [Session.logAll]

lemma Session.logAll_append (σ : Session) (es fs : List Event) :
    (σ.logAll es).logAll fs = σ.logAll (es ++ fs) := by
  simp [Session.logAll]

namespace Lookup

/-- The warning that the suffix of a key is lost, which names the key as it was given. -/
def warning (forced : Operator) (key : String) : Event where
  level := .warn
  message := "Operator suffix on '" ++ key ++ "' ignored, using " ++ forced.token

/-- The key of the entry has a suffix that gives way to the forced operator. -/
def Entry.losesSuffix (forced : Operator) (e : Entry) : Bool :=
  Key.operator e.key ≠ forced ∧ Key.operator e.key ≠ .eq

lemma lostSuffixes_eq (forced : Operator) (l : Lookup) :
    l.lostSuffixes forced = (l.entries.filter (Entry.losesSuffix forced)).map Entry.key := by
  induction l with
  | empty => rfl
  | value key v rest ih =>
    rw [lostSuffixes, entries, List.filter_cons]
    by_cases h : Key.operator key ≠ forced ∧ Key.operator key ≠ .eq <;>
      simp [Entry.losesSuffix, h, ih]
  | nested key inner rest ihInner ihRest =>
    have hinner : ((inner.entries.map (Entry.within key)).filter (Entry.losesSuffix forced)).map
        Entry.key = (inner.entries.filter (Entry.losesSuffix forced)).map Entry.key := by
      rw [List.filter_map, List.map_map]
      rfl
    rw [lostSuffixes, entries, List.filter_append, List.map_append, hinner, ihInner, ihRest]

lemma warnings_eq (forced : Operator) (l : Lookup) :
    l.warnings forced =
      (l.entries.filter (Entry.losesSuffix forced)).map fun e => warning forced e.key := by
  rw [warnings, lostSuffixes_eq, List.map_map]
  rfl

/-- What the key of an operand adds to the warnings. -/
def ownWarnings (forced : Operator) (key : String) : List Event :=
  if Key.operator key ≠ forced ∧ Key.operator key ≠ .eq then [warning forced key] else []

lemma warnings_value (forced : Operator) (key : String) (v : Value) (rest : Lookup) :
    (value key v rest).warnings forced = ownWarnings forced key ++ rest.warnings forced := by
  rw [warnings, lostSuffixes, ownWarnings]
  split <;> rfl

lemma warnings_nested (forced : Operator) (key : String) (inner rest : Lookup) :
    (nested key inner rest).warnings forced = inner.warnings forced ++ rest.warnings forced := by
  rw [warnings, lostSuffixes, List.map_append]
  rfl

/-- Flattens an object in a session: a suffix that a forced operator replaces is logged where its
operand is met. -/
def walk (forced : Option Operator) (parent : Option String) :
    Lookup → StateM Session (List Comparison)
  | empty => return []
  | value key v rest => do
    if let some op := forced then
      if Key.operator key ≠ op ∧ Key.operator key ≠ .eq then
        modify (Session.log (warning op key))
    let others ← walk forced parent rest
    return .prepared (Key.under parent (Key.base key)) (forced.getD (Key.operator key)) v :: others
  | nested key inner rest => do
    let inside ← walk forced (some (Key.under parent (Key.base key))) inner
    let others ← walk forced parent rest
    return inside ++ others

section runs

variable (parent : Option String) (key : String) (v : Value) (inner rest : Lookup) (σ : Session)

lemma walk_value_run_none :
    ((value key v rest).walk none parent).run σ =
      let others := (rest.walk none parent).run σ
      (.prepared (Key.under parent (Key.base key)) (Key.operator key) v :: others.1, others.2) :=
  rfl

lemma walk_value_run_some (op : Operator) :
    ((value key v rest).walk (some op) parent).run σ =
      let others := (rest.walk (some op) parent).run (σ.logAll (ownWarnings op key))
      (.prepared (Key.under parent (Key.base key)) op v :: others.1, others.2) := by
  rw [walk, ownWarnings]
  dsimp only
  split
  · rfl
  · rw [Session.logAll_nil]
    rfl

lemma walk_nested_run (forced : Option Operator) :
    ((nested key inner rest).walk forced parent).run σ =
      let inside := (inner.walk forced (some (Key.under parent (Key.base key)))).run σ
      let others := (rest.walk forced parent).run inside.2
      (inside.1 ++ others.1, others.2) :=
  rfl

end runs

theorem walk_run_none (parent : Option String) (l : Lookup) (σ : Session) :
    (l.walk none parent).run σ = (l.flatten none parent, σ) := by
  induction l generalizing parent σ with
  | empty => rfl
  | value key v rest ih =>
    rw [walk_value_run_none, ih]
    rfl
  | nested key inner rest ihInner ihRest =>
    rw [walk_nested_run, ihInner]
    dsimp only
    rw [ihRest, flatten]

theorem walk_run_some (op : Operator) (parent : Option String) (l : Lookup) (σ : Session) :
    (l.walk (some op) parent).run σ = (l.flatten (some op) parent, σ.logAll (l.warnings op)) := by
  induction l generalizing parent σ with
  | empty =>
    rw [warnings, lostSuffixes, List.map_nil, Session.logAll_nil]
    rfl
  | value key v rest ih =>
    rw [walk_value_run_some, ih]
    dsimp only
    rw [Session.logAll_append, ← warnings_value, flatten, Option.getD_some]
  | nested key inner rest ihInner ihRest =>
    rw [walk_nested_run, ihInner]
    dsimp only
    rw [ihRest, Session.logAll_append, ← warnings_nested, flatten]

/-- Under a forced operator the paths stay as they are, every comparison has that operator, and its
operand is prepared for it alone. The keys whose suffixes are lost are logged in the order of the
operands, when rows are excluded as well, and without a forced operator nothing is logged. -/
theorem flatten_forced (op : Operator) (parent : Option String) (l : Lookup) :
    (l.flatten (some op) parent).map Comparison.path =
        (l.flatten none parent).map Comparison.path ∧
      l.flatten (some op) parent = l.entries.map (fun e =>
        { path := e.path parent
          operator := op
          value :=
            if op = .like then e.operand.likePattern
            else if op.isMembership then e.operand.asList
            else e.operand }) ∧
      (∀ σ, (l.walk (some op) parent).run σ =
        (l.flatten (some op) parent,
          σ.logAll ((l.entries.filter (Entry.losesSuffix op)).map fun e => warning op e.key))) ∧
      (∀ σ, (l.walk none parent).run σ = (l.flatten none parent, σ)) ∧
      (∀ (q : Query) σ, (q.exclude l).run σ =
        (q.derive (·.exclude l), ((l.walk (some .ne) none).run σ).2)) ∧
      ∀ (q : Query) σ, ((q.call (.filter (.lookup l))).run σ).2 = σ ∧
        ((q.call (.having l)).run σ).2 = σ := by
  refine ⟨?_, l.flatten_eq_map_entries (some op) parent, fun σ => ?_, l.walk_run_none parent,
    fun q σ => ?_, fun q σ => ⟨rfl, rfl⟩⟩
  · rw [flatten_eq_map_entries, flatten_eq_map_entries, List.map_map, List.map_map]
    rfl
  · rw [walk_run_some, warnings_eq]
  · rw [walk_run_some]
    rfl

end Lookup

end SqlCompose
