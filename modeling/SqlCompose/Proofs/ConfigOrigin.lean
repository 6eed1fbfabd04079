import SqlCompose.Config.Document
import SqlCompose.Proofs.Assignments
import SqlCompose.Proofs.ValidConfigs

/-!
# Where a configuration comes from

A configuration comes from one file: the one that the variable of the process names, or else the first
assignment to that variable in the environment file, or else the default one. An environment file that
is no text or a malformed one is an error whatever the variable says. So it is with every reader of
environment files that keeps to the laws, and whatever reads the documents.
-/

namespace SqlCompose.Config

variable (r : Readers)

/-- The answer that one file gives, which is the only one that is read. -/
def ofFile (text? : Option String) : Except ConfigError Config :=
  text?.elim (.error .unreadable) (ofText r)

/-- What loading a configuration answers. -/
inductive Answer (format : EnvironmentFormat) (f : Files) (env : Environment) :
    Except ConfigError Config → Prop where
  | notText {bytes : ByteArray} (h : f.environment? = some bytes)
    (htext : String.fromUTF8? bytes = none) : Answer format f env (.error .badEnvironmentFile)
  | malformed {bytes : ByteArray} {text : String} (h : f.environment? = some bytes)
    (htext : String.fromUTF8? bytes = some text) (hformat : format text = none) :
    Answer format f env (.error .badEnvironmentFile)
  | named {assignments : List (String × String)} {path : String}
    (h : f.assignments? format env = some assignments)
    (hset : env.get? pathVariable = some (.text path)) :
    Answer format f env (ofFile r (f.text? path))
  | undecodable {assignments : List (String × String)}
    (h : f.assignments? format env = some assignments)
    (hset : env.get? pathVariable = some .undecodable) :
    Answer format f env (.error .badVariable)
  | assigned {assignments : List (String × String)} {path : String}
    (h : f.assignments? format env = some assignments) (hset : env.get? pathVariable = none)
    (hpath : assigned? assignments pathVariable = some path) :
    Answer format f env (ofFile r (f.text? path))
  | byDefault {assignments : List (String × String)}
    (h : f.assignments? format env = some assignments) (hset : env.get? pathVariable = none)
    (hpath : assigned? assignments pathVariable = none) (hexists : f.exists? defaultPath = true) :
    Answer format f env (ofFile r (f.text? defaultPath))
  | missing {assignments : List (String × String)}
    (h : f.assignments? format env = some assignments) (hset : env.get? pathVariable = none)
    (hpath : assigned? assignments pathVariable = none) (hexists : f.exists? defaultPath = false) :
    Answer format f env (.error (.invalid .noFile))

variable {r} {format : EnvironmentFormat} {f : Files} {env : Environment}

lemma fromFile_eq (path : String) : fromFile r f path = ofFile r (f.text? path) := by
  rw [fromFile, ofFile]
  cases f.text? path <;> rfl

lemma assignments?_eq_none_iff :
    f.assignments? format env = none ↔ ∃ bytes, f.environment? = some bytes ∧
      ∀ text, String.fromUTF8? bytes = some text → format text = none := by
  rw [Files.assignments?]
  cases f.environment? with
  | none => simp
  | some bytes => simp [Option.bind_eq_none_iff]

lemma load_of_refused (hlaw : format.LawfulAt r.environment f env)
    (h : f.assignments? format env = none) : load r f env = some (.error .badEnvironmentFile) := by
  obtain ⟨bytes, hbytes, hformat⟩ := assignments?_eq_none_iff.1 h
  have hrefused : r.environment f env = .refused := by
    cases htext : String.fromUTF8? bytes with
    | none => exact hlaw.notText hbytes htext
    | some text => exact hlaw.malformed hbytes htext (hformat text htext)
  rw [load, hrefused]

/-- The variable of the process counts before the assignments of the environment file. -/
lemma load_of_assignments (hlaw : format.LawfulAt r.environment f env)
    {assignments : List (String × String)} (h : f.assignments? format env = some assignments) :
    load r f env = some (fromVariable r f
      ((env.get? pathVariable).or ((assigned? assignments pathVariable).map .text))) := by
  rw [Files.assignments?] at h
  cases hbytes : f.environment? with
  | none =>
    rw [hbytes] at h
    obtain rfl : [] = assignments := Option.some.inj h
    rw [load, hlaw.missing hbytes]
    simp [assigned?]
  | some bytes =>
    simp only [hbytes, Option.bind_eq_some_iff, Option.map_eq_some_iff] at h
    obtain ⟨text, htext, assignments, hformat, rfl⟩ := h
    obtain ⟨env', henv, hget⟩ := hlaw.loaded hbytes htext hformat
    rw [load, henv]
    simp only [hget]

lemma load_of_answer (hlaw : format.LawfulAt r.environment f env)
    {answer : Except ConfigError Config} (h : Answer r format f env answer) :
    load r f env = some answer := by
  cases h with
  | notText h htext =>
    exact load_of_refused hlaw (assignments?_eq_none_iff.2 ⟨_, h, by simp [htext]⟩)
  | malformed h htext hformat =>
    exact load_of_refused hlaw (assignments?_eq_none_iff.2 ⟨_, h, by simp [htext, hformat]⟩)
  | named h hset =>
    rw [load_of_assignments hlaw h, hset, ← fromFile_eq]
    rfl
  | undecodable h hset =>
    rw [load_of_assignments hlaw h, hset]
    rfl
  | assigned h hset hpath =>
    rw [load_of_assignments hlaw h, hset, hpath, ← fromFile_eq]
    rfl
  | byDefault h hset hpath hexists =>
    rw [load_of_assignments hlaw h, hset, hpath, ← fromFile_eq]
    exact congrArg some (if_pos hexists)
  | missing h hset hpath hexists =>
    rw [load_of_assignments hlaw h, hset, hpath]
    exact congrArg some (if_neg (by simp [hexists]))

lemma exists_answer (r : Readers) (format : EnvironmentFormat) (f : Files) (env : Environment) :
    ∃ answer, Answer r format f env answer := by
  cases h : f.assignments? format env with
  | none =>
    obtain ⟨bytes, hbytes, hformat⟩ := assignments?_eq_none_iff.1 h
    cases htext : String.fromUTF8? bytes with
    | none => exact ⟨_, .notText hbytes htext⟩
    | some text => exact ⟨_, .malformed hbytes htext (hformat text htext)⟩
  | some assignments =>
    rcases hset : env.get? pathVariable with _ | path | _
    · cases hpath : assigned? assignments pathVariable with
      | some path => exact ⟨_, .assigned h hset hpath⟩
      | none =>
        cases hexists : f.exists? defaultPath with
        | true => exact ⟨_, .byDefault h hset hpath hexists⟩
        | false => exact ⟨_, .missing h hset hpath hexists⟩
    · exact ⟨_, .named h hset⟩
    · exact ⟨_, .undecodable h hset⟩

/-- With a lawful reader of environment files, loading gives the one answer there is. Whatever is
loaded or read from a file or from a text is valid, and so is the database of every client. -/
theorem load_answers (r : Readers) (format : EnvironmentFormat) (f : Files) (env : Environment) :
    (format.LawfulAt r.environment f env → ∃ answer, load r f env = some answer ∧
        ∀ other, Answer r format f env other ↔ other = answer) ∧
      (∀ c, load r f env = some (.ok c) → c.database.Valid) ∧
      (∀ path c, fromFile r f path = .ok c → c.database.Valid) ∧
      (∀ text c, ofText r text = .ok c → c.database.Valid) ∧
      ∀ client : Client, client.Reachable → ∀ d ∈ client.database, d.Valid := by
  refine ⟨fun hlaw => ?_, fun c => valid_of_load, fun path c => valid_of_fromFile,
    fun text c => valid_of_ofText, fun client => Client.Reachable.valid⟩
  obtain ⟨answer, hanswer⟩ := exists_answer r format f env
  refine ⟨answer, load_of_answer hlaw hanswer, fun other => ⟨fun hother => ?_, ?_⟩⟩
  · exact Option.some.inj ((load_of_answer hlaw hother).symm.trans (load_of_answer hlaw hanswer))
  · rintro rfl
    exact hanswer

/-- A configuration as it is written in a file. -/
def shopText : String :=
  "[database]\nhost = \"db\"\nport = 8123\ndatabase = \"shop\"\nusername = \"app\"\n" ++
    "connection_timeout_seconds = 5\nmax_connections = 2\n"

def shopConfig : Config where
  database := {
    host := "db"
    port := 8123
    name := "shop"
    username := "app"
    timeoutSeconds := 5
    maxConnections := 2 }

/-- A directory whose environment file names the only configuration file. -/
def shopDirectory : Directory where
  files := [
    ([".env"], "CLICKHAUS_CONFIG=shop.toml\n".toUTF8),
    (["shop.toml"], shopText.toUTF8)]

/-- The environment file names the file of the configuration. A variable that names no file is an error
all the same. -/
theorem load_answers_unreadable :
    load Readers.standard shopDirectory [] = some (.ok shopConfig) ∧
      load Readers.standard shopDirectory [(pathVariable, .text "other.toml")] =
        some (.error .unreadable) := by
  constructor
  · have hassignments : (shopDirectory : Files).assignments? EnvironmentFile.format [] =
        some [(pathVariable, "shop.toml")] := by
      decide +kernel
    have hlaw : EnvironmentFile.format.LawfulAt Readers.standard.environment shopDirectory [] :=
      EnvironmentFile.lawfulAt (by decide +kernel) (by simp [Environment.get?])
    have htext : (shopDirectory : Files).text? "shop.toml" = some shopText := by decide +kernel
    have hdocument : Readers.standard.document? shopText = some shopConfig := by decide +kernel
    obtain ⟨answer, hload, hanswer⟩ := (load_answers _ _ _ _).1 hlaw
    rw [hload, ← (hanswer _).1 (.assigned hassignments rfl rfl), htext, ofFile, Option.elim_some,
      ofText, hdocument]
    rfl
  · have hassignments : (shopDirectory : Files).assignments? EnvironmentFile.format
        [(pathVariable, .text "other.toml")] = some [(pathVariable, "shop.toml")] := by
      decide +kernel
    have hlaw : EnvironmentFile.format.LawfulAt Readers.standard.environment shopDirectory
        [(pathVariable, .text "other.toml")] := by
      refine EnvironmentFile.lawfulAt (by decide +kernel) fun assignments h => ?_
      obtain rfl : _ = assignments := Option.some.inj (hassignments.symm.trans h)
      decide
    have htext : (shopDirectory : Files).text? "other.toml" = none := by decide +kernel
    obtain ⟨answer, hload, hanswer⟩ := (load_answers _ _ _ _).1 hlaw
    rw [hload, ← (hanswer _).1 (.named hassignments rfl), htext]
    rfl

end SqlCompose.Config
