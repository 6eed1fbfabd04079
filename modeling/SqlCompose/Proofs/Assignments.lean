import Mathlib.Tactic.Lemma
import Mathlib.Tactic.SplitIfs
import SqlCompose.Config.EnvironmentFile

/-!
# Assignments of an environment file

What loading an environment file is expected to do: a variable that is set keeps its value, any other gets
that of its first assignment, and a malformed file is refused whatever is set. The reader of environment
files does so, unless a value has a NUL or a variable that is no text is assigned to.
-/

namespace SqlCompose

/-- What a text assigns in order under the variables that are set, unless it is malformed. -/
abbrev EnvironmentFormat := String → Option (Environment → List (String × String))

/-- The assignments of the environment file in order, none without a file. -/
def Files.assignments? (format : EnvironmentFormat) (f : Files) (env : Environment) :
    Option (List (String × String)) :=
  match f.environment? with
  | none => some []
  | some bytes => (String.fromUTF8? bytes).bind fun text => (format text).map (· env)

/-- The value of the first assignment to a name. -/
def assigned? (assignments : List (String × String)) (name : String) : Option String :=
  (assignments.find? fun a => a.1 = name).map (·.2)

/-- What a loader of environment files promises of one call: it tells that there is no file, refuses
bytes that are no text or a malformed one, and otherwise adds the assignments to the variables. -/
structure EnvironmentFormat.LawfulAt (format : EnvironmentFormat)
    (load : Files → Environment → Loading) (f : Files) (env : Environment) : Prop where
  missing (h : f.environment? = none) : load f env = .missing
  notText {bytes : ByteArray} (h : f.environment? = some bytes)
    (htext : String.fromUTF8? bytes = none) : load f env = .refused
  malformed {bytes : ByteArray} {text : String} (h : f.environment? = some bytes)
    (htext : String.fromUTF8? bytes = some text) (hformat : format text = none) :
    load f env = .refused
  /-- A variable that is set keeps its value, and any other gets that of its first assignment. -/
  loaded {bytes : ByteArray} {text : String} {assignments : Environment → List (String × String)}
    (h : f.environment? = some bytes) (htext : String.fromUTF8? bytes = some text)
    (hformat : format text = some assignments) :
    ∃ env', load f env = .loaded env' ∧ ∀ name,
      env'.get? name = (env.get? name).or ((assigned? (assignments env) name).map .text)

namespace Environment

/-- Adds assignments one after the other. -/
def setAll (env : Environment) (assignments : List (String × String)) : Environment :=
  assignments.foldl (fun env a => env.setIfMissing a.1 a.2) env

lemma text?_eq_some_iff {env : Environment} {name s : String} :
    env.text? name = some s ↔ env.get? name = some (.text s) := by
  rw [text?]
  rcases env.get? name with _ | _ | _ <;> simp

lemma get?_setIfMissing (env : Environment) (name value other : String) :
    (env.setIfMissing name value).get? other =
      if env.text? name = none ∧ name = other then some (.text value) else env.get? other := by
  rw [setIfMissing]
  cases htext : env.text? name with
  | some s => simp
  | none => by_cases h : name = other <;> simp [get?, h]

/-- A variable that is set keeps its value, and any other gets that of its first assignment; one that
is no text must not be assigned to. -/
lemma get?_setAll {env : Environment} {assignments : List (String × String)} {name : String}
    (h : env.get? name = some .undecodable → ∀ a ∈ assignments, a.1 ≠ name) :
    (env.setAll assignments).get? name =
      (env.get? name).or ((assigned? assignments name).map .text) := by
  induction assignments generalizing env with
  | nil => simp [setAll, assigned?]
  | cons a rest ih =>
    have hcons : env.setAll (a :: rest) = (env.setIfMissing a.1 a.2).setAll rest := rfl
    have hset := get?_setIfMissing env a.1 a.2 name
    rw [hcons, assigned?, List.find?_cons]
    by_cases hname : a.1 = name
    · rcases hget : env.get? name with _ | s | _
      · have htext : env.text? name = none := by rw [text?, hget]
        rw [if_pos ⟨hname ▸ htext, hname⟩] at hset
        rw [ih (by simp [hset]), hset]
        simp [hname]
      · have htext : env.text? name = some s := text?_eq_some_iff.2 hget
        rw [if_neg (by simp [hname, htext]), hget] at hset
        rw [ih (by simp [hset]), hset, Option.some_or, Option.some_or]
      · exact absurd hname (h hget a List.mem_cons_self)
    · rw [if_neg fun hboth => hname hboth.2] at hset
      rw [ih fun hget => (List.forall_mem_cons.1 (h (hset ▸ hget))).2, hset, assigned?]
      simp [hname]

end Environment

namespace EnvironmentFile

/-- A draft without what it stands for so far. -/
def Draft.blind (d : Draft) : Draft :=
  { d with output := [] }

/-- What a character does to a draft, but for the values of variables, depends on no variable. -/
lemma Draft.blind_step (env : Environment) (d : Draft) (c : Char) :
    (d.step env c).map blind = (d.blind.step [] c).map blind := by
  obtain ⟨output, inSingle, inDouble, escaped, atEnd, _ | ⟨name, braced⟩⟩ := d <;>
  · simp only [blind, step]
    split_ifs <;> rfl

/-- Whether a value can be read depends on no variable. -/
lemma isSome_readValue (env : Environment) (d : Draft) (cs : List Char) :
    (readValue env d cs).isSome = (readValue [] d.blind cs).isSome := by
  induction cs generalizing env d with
  | nil =>
    have hnil : ∀ env (d : Draft), (readValue env d []).isSome =
        !(d.reference.any (·.2) || d.inSingle || d.inDouble) := by
      intro env d
      cases hopen : d.reference.any (·.2) || d.inSingle || d.inDouble <;> simp [readValue, hopen]
    rw [hnil, hnil]
    rfl
  | cons c cs ih =>
    simp only [readValue]
    have hatEnd : d.blind.atEnd = d.atEnd := rfl
    rw [hatEnd]
    split
    · rfl
    have hstep := d.blind_step env c
    cases hd : d.step env c with
    | none =>
      cases hd' : d.blind.step [] c with
      | none => rfl
      | some next => simp [hd, hd'] at hstep
    | some next =>
      cases hd' : d.blind.step [] c with
      | none => simp [hd, hd'] at hstep
      | some next' =>
        rw [hd, hd'] at hstep
        have hblind : next.blind = next'.blind := Option.some.inj hstep
        rw [Option.bind_some, Option.bind_some, ih env next, ih [] next', hblind]

/-- The variable that a line assigns depends on no variable. -/
lemma map_fst_readLine? (env env' : Environment) (line : List Char) :
    (readLine? env line).map (·.map Prod.fst) = (readLine? env' line).map (·.map Prod.fst) := by
  simp only [readLine?]
  split_ifs
  · rfl
  cases readAssigned? (skipBlanks (Text.trimEnd line)) with
  | none => rfl
  | some assigned =>
    obtain ⟨key, rest⟩ := assigned
    simp only [bind, Option.bind_some]
    split_ifs
    · rfl
    have hvalue := (isSome_readValue env {} (skipBlanks rest)).trans
      (isSome_readValue env' {} (skipBlanks rest)).symm
    cases hread : readValue env {} (skipBlanks rest) <;>
      cases hread' : readValue env' {} (skipBlanks rest) <;> simp_all

/-- The assignments of lines in order. Each value is read under the variables that the lines before it
add. -/
def assignmentsOf? (env : Environment) :
    List (Option (List Char)) → Option (List (String × String))
  | [] => some []
  | none :: _ => none
  | some line :: rest => do
    match ← readLine? env line with
    | some (name, value) =>
      return (name, value) :: (← assignmentsOf? (env.setIfMissing name value) rest)
    | none => assignmentsOf? env rest

/-- What a text assigns. Whether it is malformed shows without any variables. -/
def format : EnvironmentFormat := fun text =>
  (assignmentsOf? [] (lines text)).map fun _ env => (assignmentsOf? env (lines text)).getD []

lemma assignmentsOf?_cons (env : Environment) (line : List Char)
    (rest : List (Option (List Char))) :
    assignmentsOf? env (some line :: rest) =
      (readLine? env line).bind fun
        | some (name, value) =>
          (assignmentsOf? (env.setIfMissing name value) rest).map ((name, value) :: ·)
        | none => assignmentsOf? env rest := by
  rw [assignmentsOf?]
  rcases readLine? env line with _ | _ | ⟨name, value⟩
  · rfl
  · rfl
  · change (assignmentsOf? _ rest).bind _ = (assignmentsOf? _ rest).map _
    rw [Option.map_eq_bind]
    rfl

/-- Which variables are assigned depends on no variable, and so does whether the text is malformed. -/
lemma map_fst_assignmentsOf? (env env' : Environment) (lines : List (Option (List Char))) :
    (assignmentsOf? env lines).map (·.map Prod.fst) =
      (assignmentsOf? env' lines).map (·.map Prod.fst) := by
  induction lines generalizing env env' with
  | nil => rfl
  | cons line rest ih =>
    cases line with
    | none => rfl
    | some line =>
      have hline := map_fst_readLine? env env' line
      rw [assignmentsOf?_cons, assignmentsOf?_cons]
      generalize readLine? env line = read at hline ⊢
      generalize readLine? env' line = read' at hline ⊢
      match read, read' with
      | none, none => rfl
      | some none, some none => exact ih env env'
      | some (some (name, value)), some (some (name', value')) =>
        obtain rfl : name = name' := by simpa using hline
        have hrest := ih (env.setIfMissing name value) (env'.setIfMissing name value')
        have hcons : ∀ (value : String) (as : Option (List (String × String))),
            (as.map ((name, value) :: ·)).map (·.map Prod.fst) =
              (as.map (·.map Prod.fst)).map (name :: ·) := by
          rintro value (_ | as) <;> rfl
        simp only [Option.bind_some, hcons, hrest]

lemma map_format (text : String) (env : Environment) :
    (format text).map (· env) = assignmentsOf? env (lines text) := by
  have hnames := map_fst_assignmentsOf? env [] (lines text)
  rw [format]
  cases h : assignmentsOf? env (lines text) with
  | none =>
    rw [h, Option.map_none, eq_comm, Option.map_eq_none_iff] at hnames
    rw [hnames]
    rfl
  | some as =>
    obtain ⟨as', has', -⟩ := Option.map_eq_some_iff.1 (hnames.symm.trans (congrArg _ h))
    simp only [has', h, Option.map_some, Option.getD_some]

/-- Lines are loaded by making their assignments in order. -/
lemma loadLines_eq {env : Environment} {lines : List (Option (List Char))}
    (h : loadLines env lines ≠ .stopped) :
    loadLines env lines =
      (assignmentsOf? env lines).elim .refused fun assignments =>
        .loaded (env.setAll assignments) := by
  induction lines generalizing env with
  | nil => rfl
  | cons line rest ih =>
    cases line with
    | none => rfl
    | some line =>
      rw [assignmentsOf?_cons]
      rw [loadLines] at h ⊢
      generalize readLine? env line = read at h ⊢
      rcases read with _ | _ | ⟨name, value⟩
      · rfl
      · exact ih h
      · have hnul : ¬ (env.text? name = none ∧ '\x00' ∈ value.toList) := fun hnul =>
          h (if_pos hnul)
        simp only [if_neg hnul] at h ⊢
        rw [ih h]
        simp only [Option.bind_some]
        cases assignmentsOf? (env.setIfMissing name value) rest <;> rfl

lemma load_of_text {f : Files} {env : Environment} {bytes : ByteArray} {text : String}
    (h : f.environment? = some bytes) (htext : String.fromUTF8? bytes = some text)
    (hload : load f env ≠ .stopped) :
    load f env =
      (assignmentsOf? env (lines text)).elim .refused fun assignments =>
        .loaded (env.setAll assignments) := by
  have heq : load f env = loadLines env (lines text) := by simp only [load, h, htext]
  rw [heq] at hload ⊢
  exact loadLines_eq hload

/-- The reader of environment files is lawful, unless a value has a NUL or a variable that is no text
is assigned to. -/
lemma lawfulAt {f : Files} {env : Environment} (hload : load f env ≠ .stopped)
    (hkept : ∀ assignments, f.assignments? format env = some assignments →
      ∀ a ∈ assignments, env.get? a.1 ≠ some .undecodable) :
    format.LawfulAt load f env where
  missing h := by rw [load, h]
  notText h htext := by simp only [load, h, htext]
  malformed {bytes text} h htext hformat := by
    rw [load_of_text h htext hload, ← map_format, hformat]
    rfl
  loaded {bytes text assignments} h htext hformat := by
    refine ⟨env.setAll (assignments env), ?_, fun name => Environment.get?_setAll ?_⟩
    · rw [load_of_text h htext hload, ← map_format, hformat]
      rfl
    · rintro hget a ha rfl
      have hfile : f.assignments? format env = some (assignments env) := by
        simp [Files.assignments?, h, htext, hformat]
      exact hkept _ hfile a ha hget

end EnvironmentFile

end SqlCompose
