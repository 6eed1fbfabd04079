import SqlCompose.Config.Basic
import SqlCompose.Query

/-!
# Clients

A client holds a source and the settings with which its queries start.
-/

namespace SqlCompose

structure Client where
  link : Link
  database : Option Database := none
  settings : Settings := {}

/-- Why a client cannot be made or is not healthy. -/
inductive ClientError where
  | config (e : ConfigError)
  | query (e : QueryError)
  | noHealthRows

def ClientError.message : ClientError → String
  | config e => "Configuration error: " ++ e.message
  | query e => "Query error: " ++ e.message
  | noHealthRows => "Health check failed: SELECT 1 returned no rows"

namespace Client

/-- A client of a source that is reached already. -/
def ofLink (link : Link) : Client :=
  { link }

/-- A client with the settings of a valid configuration. -/
def ofConfig (link : Link) (c : Config) : Run ClientError Client :=
  match c.validate with
  | .error e => throw (.config e)
  | .ok c => do
    let place := c.database.url ++ " (" ++ c.database.name ++ ")"
    modify (Session.log ⟨.info, "ClickHaus configured for " ++ place, none⟩)
    return { link, database := some c.database, settings := c.query }

/-- The client whose new queries start with other settings. -/
def withSettings (c : Client) (settings : Settings) : Client :=
  { c with settings }

def objects (c : Client) (table : Table) : Query :=
  { statement := { table, settings := c.settings }, link := some c.link }

/-- Sends the least query and asks for a row. -/
def healthCheck (c : Client) : Run ClientError Unit := do
  let stream ← ExceptT.adapt ClientError.query (c.link.query "SELECT 1")
  let rows ← (stream.rows).mapError ClientError.query
  if rows.isEmpty then throw .noHealthRows

end Client

end SqlCompose
