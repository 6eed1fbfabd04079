import SqlCompose.Proofs.Entries

/-!
# The members of a JSON object

What an object holds besides further objects are its members at any depth, each under a key and
inside objects with keys of their own. Filter objects and sort specifications are read off them in
document order.
-/

namespace SqlCompose

namespace Json

/-- A member that is no object, with the keys of the objects around it, outermost first. -/
structure Member where
  around : List String
  key : String
  value : Json

namespace Member

/-- The member of an object as a member of the object that holds it under `key`. -/
def within (key : String) (m : Member) : Member :=
  { m with around := key :: m.around }

def keys (m : Member) : List String :=
  m.around ++ [m.key]

/-- The keys with points between them, behind the path of the object if it has one. -/
def path (parent : Option String) (m : Member) : String :=
  ".".intercalate (parent.toList ++ m.keys)

lemma path_within (parent : Option String) (key : String) (m : Member) :
    (m.within key).path parent = m.path (some (Key.under parent key)) := by
  have hkeys : (m.within key).keys = key :: m.keys := rfl
  rw [path, path, hkeys, ← Lookup.Entry.intercalate_under]
  rfl

lemma path_singleton (parent : Option String) (key : String) (value : Json) :
    (Member.mk [] key value).path parent = Key.under parent key := by
  have hunder := Lookup.Entry.intercalate_under parent key []
  rw [String.intercalate_singleton] at hunder
  exact hunder.symm

end Member

mutual

def inside? : Json → Option (List Member)
  | .object members => some (leaves members)
  | _ => none

/-- The members that are no objects, at any depth, in document order. -/
def leaves : List (String × Json) → List Member
  | [] => []
  | (key, j) :: rest =>
    match inside? j with
    | some inner => inner.map (Member.within key) ++ leaves rest
    | none => ⟨[], key, j⟩ :: leaves rest

end

def isObject : Json → Bool
  | .object _ => true
  | _ => false

/-- Induction over the members of an object, with the claim for each object among them. -/
theorem inductMembers {motive : List (String × Json) → Prop} (nil : motive [])
    (object : ∀ key inner rest, motive inner → motive rest →
      motive ((key, .object inner) :: rest))
    (leaf : ∀ key j rest, isObject j = false → motive rest → motive ((key, j) :: rest))
    (ms : List (String × Json)) : motive ms := by
  match ms with
  | [] => exact nil
  | (key, j) :: rest =>
    have hrest := inductMembers nil object leaf rest
    cases j with
    | object inner => exact object key inner rest (inductMembers nil object leaf inner) hrest
    | _ => exact leaf key _ rest rfl hrest
termination_by sizeOf ms

section

variable (key : String) (inner rest : List (String × Json)) {j : Json}

lemma leaves_object :
    leaves ((key, .object inner) :: rest) =
      (leaves inner).map (Member.within key) ++ leaves rest := by
  rw [leaves, inside?]

lemma leaves_leaf (h : isObject j = false) :
    leaves ((key, j) :: rest) = ⟨[], key, j⟩ :: leaves rest := by
  have hnone : inside? j = none := by
    cases j <;> simp_all [isObject, inside?]
  rw [leaves, hnone]

end

end Json

namespace Lookup

lemma entries_ofMembers (ms : List (String × Json)) :
    (ofMembers ms).entries =
      (Json.leaves ms).map fun m => ⟨m.around, m.key, Value.ofJson m.value⟩ := by
  induction ms using Json.inductMembers with
  | nil => rfl
  | object key inner rest ihInner ihRest =>
    rw [ofMembers, ofObject?, entries, ihInner, ihRest, Json.leaves_object, List.map_append,
      List.map_map, List.map_map]
    rfl
  | leaf key j rest hj ih =>
    have hnone : ofObject? j = none := by
      cases j <;> simp_all [Json.isObject, ofObject?]
    rw [ofMembers, hnone, entries, ih, Json.leaves_leaf key rest hj, List.map_cons]

end Lookup

namespace RowOrder

section

variable (key : String) (inner rest : List (String × Json)) {j : Json}

lemma ofMembers_object :
    ofMembers ((key, .object inner) :: rest) =
      (ofMembers inner).bind fun s => (ofMembers rest).map (nested key s) := by
  rw [ofMembers, ofObject?]
  cases ofMembers inner <;> cases ofMembers rest <;> rfl

lemma ofMembers_leaf (h : j.isObject = false) :
    ofMembers ((key, j) :: rest) =
      (Direction.ofJson key j).bind fun d => (ofMembers rest).map (field key d) := by
  have hnone : ofObject? j = none := by
    cases j <;> simp_all [Json.isObject, ofObject?]
  rw [ofMembers, hnone]
  cases Direction.ofJson key j <;> cases ofMembers rest <;> rfl

end

/-- Reading the directions of the members one after the other gives what is read and flattened. -/
theorem map_flatten_ofMembers (parent : Option String) (ms : List (String × Json)) :
    (ofMembers ms).map (flatten parent) =
      (Json.leaves ms).mapM fun m =>
        (Direction.ofJson m.key m.value).map fun d => (m.path parent, d) := by
  induction ms using Json.inductMembers generalizing parent with
  | nil => rfl
  | object key inner rest ihInner ihRest =>
    have hinner : ((Json.leaves inner).map (Json.Member.within key)).mapM
        (fun m => (Direction.ofJson m.key m.value).map fun d => (m.path parent, d)) =
        (ofMembers inner).map (flatten (some (Key.under parent key))) := by
      rw [ihInner, List.mapM_map]
      simp only [Function.comp_def, Json.Member.path_within]
      rfl
    rw [ofMembers_object, Json.leaves_object, List.mapM_append, hinner, ← ihRest]
    cases ofMembers inner <;> cases ofMembers rest <;> rfl
  | leaf key j rest hj ih =>
    rw [ofMembers_leaf key rest hj, Json.leaves_leaf key rest hj, List.mapM_cons, ← ih,
      Json.Member.path_singleton]
    cases Direction.ofJson key j <;> cases ofMembers rest <;> rfl

end RowOrder

end SqlCompose
