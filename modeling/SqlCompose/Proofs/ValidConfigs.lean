import Mathlib.Tactic.Lemma
import Mathlib.Tactic.SplitIfs
import SqlCompose.Client
import SqlCompose.Config.Load

/-!
# Valid configurations

Whatever is read as a configuration is valid, whatever reads it, and so is the database of every client,
however the client was made.
-/

namespace SqlCompose

/-- A database that can be reached: nothing is empty and nothing is zero. -/
structure Database.Valid (d : Database) : Prop where
  host : d.host ≠ ""
  port : d.port ≠ 0
  name : d.name ≠ ""
  username : d.username ≠ ""
  connections : d.maxConnections ≠ 0
  timeout : d.timeoutSeconds ≠ 0

namespace Config

lemma fault?_eq_none_iff (c : Config) : c.fault? = none ↔ c.database.Valid := by
  constructor
  · intro h
    simp only [fault?] at h
    split_ifs at h with hhost hport hname husername hconnections htimeout
    exact ⟨hhost, hport, hname, husername, hconnections, htimeout⟩
  · rintro ⟨hhost, hport, hname, husername, hconnections, htimeout⟩
    simp [fault?, hhost, hport, hname, husername, hconnections, htimeout]

lemma validate_eq_ok_iff {c valid : Config} :
    c.validate = .ok valid ↔ c.database.Valid ∧ valid = c := by
  rw [validate, ← fault?_eq_none_iff]
  cases c.fault? <;> simp [eq_comm]

variable {r : Readers} {c : Config}

lemma valid_of_ofText {text : String} (h : ofText r text = .ok c) : c.database.Valid := by
  rw [ofText] at h
  split at h
  · obtain ⟨hvalid, rfl⟩ := validate_eq_ok_iff.1 h
    exact hvalid
  · contradiction

lemma valid_of_fromFile {f : Files} {path : String} (h : fromFile r f path = .ok c) :
    c.database.Valid := by
  rw [fromFile] at h
  split at h
  · exact valid_of_ofText h
  · contradiction

lemma valid_of_fromVariable {f : Files} {v : Option Variable} (h : fromVariable r f v = .ok c) :
    c.database.Valid := by
  rcases v with _ | path | _
  · rw [fromVariable, fromDefaultFile] at h
    split at h
    · exact valid_of_fromFile h
    · contradiction
  · exact valid_of_fromFile h
  · contradiction

lemma valid_of_load {f : Files} {env : Environment} (h : load r f env = some (.ok c)) :
    c.database.Valid := by
  rw [load] at h
  cases hread : r.environment f env <;> rw [hread] at h
  case loaded env' => exact valid_of_fromVariable (Option.some.inj h)
  case missing => exact valid_of_fromVariable (Option.some.inj h)
  case refused => cases h
  case stopped => cases h

end Config

namespace Client

/-- The clients that can be made: of a link, of any configuration that is accepted in some session, and
of a client by other settings. -/
inductive Reachable : Client → Prop where
  | ofLink (link : Link) : Reachable (ofLink link)
  | ofConfig {link : Link} {c : Config} {client : Client} {s s' : Session}
    (h : (ofConfig link c).run.run s = (.ok client, s')) : Reachable client
  | withSettings {client : Client} (h : Reachable client) (settings : Settings) :
    Reachable (client.withSettings settings)

lemma ofConfig_run (link : Link) (c : Config) (s : Session) :
    (ofConfig link c).run.run s =
      match c.validate with
      | .error e => (.error (.config e), s)
      | .ok c =>
        (.ok { link, database := some c.database, settings := c.query },
          s.log ⟨.info, "ClickHaus configured for " ++ (c.database.url ++ " (" ++ c.database.name ++ ")"),
            none⟩) := by
  rw [ofConfig]
  rcases c.validate with e | c <;> rfl

lemma Reachable.valid {client : Client} (h : Reachable client) : ∀ d ∈ client.database, d.Valid := by
  induction h with
  | ofLink link => simp [Client.ofLink]
  | @ofConfig link c client s s' h =>
    rw [ofConfig_run] at h
    cases hvalidate : c.validate with
    | error e =>
      rw [hvalidate] at h
      cases h
    | ok valid =>
      rw [hvalidate] at h
      obtain ⟨hvalid, rfl⟩ := Config.validate_eq_ok_iff.1 hvalidate
      cases h
      simpa using hvalid
  | withSettings h settings ih => exact ih

end Client

end SqlCompose
