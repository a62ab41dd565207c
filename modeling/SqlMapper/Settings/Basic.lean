import SqlMapper.Validation
import SqlMapper.Settings.EnvFile
import SqlMapper.Settings.Json
import SqlMapper.Text.Letters
/-!
# SqlMapper.Settings.Basic

Settings from the environment and from a file of variables. The names of the variables have a common
beginning and may be written in any case; the environment goes before the file, and an empty value
counts as none.
-/

namespace SqlMapper

/-- The settings. -/
structure Settings where
  databaseUrl : Option String := none
  /-- Does the engine log its own work? -/
  sqlEcho : Bool := false
  /-- Are statements logged as they are sent? -/
  logSql : Bool := true
  /-- How many seconds to wait for a mapping document; without a bound if there is none. -/
  readyTimeout : Option Float := none
  /-- Are absent values in templates strict? -/
  strictTemplates : Bool := false
  /-- The names of directories in which no entity classes are looked for. -/
  excludedDirectories : List String :=
    ["node_modules", "__pycache__", ".git", ".venv", "venv", "site-packages"]

namespace Settings

open Validation

/-- Why there are no settings. -/
inductive SettingsError
  | invalid (issues : List Issue)
  /-- The value of a setting is no JSON; it comes from the file or from the environment. -/
  | malformed (name : String) (fromFile : Bool)
  deriving Repr, DecidableEq

/-- The beginning of the variables' names. -/
def namePrefix : String := "SQLDAO_"

/-- The value of a setting, and whether it comes from the file. -/
def value? (environment file : List (String × String)) (name : String) : Option (String × Bool) :=
  let wanted := Text.lower (namePrefix ++ name).toList
  let find (vs : List (String × String)) : Option String :=
    (vs.reverse.find? fun (k, v) => Text.lower k.toList == wanted && !v.isEmpty).map (·.2)
  match find environment with
  | some v => some (v, false)
  | none => (find file).map fun v => (v, true)

/-- Check the value of a setting, if there is one. -/
def checked {α : Type} (given : Option String) (name : String) (default : α)
    (check : String → Checked α) : Except Issue α :=
  match given with
  | none => .ok default
  | some s =>
    match check s with
    | .ok a => .ok a
    | .error c => .error ⟨[.key name], c⟩

/-- The texts of a list. -/
def textsOf (name : String) (v : Value) : Except (List Issue) (List String) :=
  match Validation.list v with
  | .error c => .error [⟨[.key name], c⟩]
  | .ok xs =>
    let texts := xs.zipIdx.map fun (x, i) =>
      match Validation.text none x with
      | .ok s => .ok s
      | .error c => .error (⟨[.key name, .index i], c⟩ : Issue)
    match texts.flatMap issue? with
    | [] => .ok (texts.filterMap (·.toOption))
    | issues => .error issues

/-- The settings of an environment and a file of variables. -/
def load (environment : List (String × String)) (file : Option String) :
    Except SettingsError Settings :=
  let defaults : Settings := {}
  let fromFile := (file.map (EnvFile.read environment)).getD []
  let given (name : String) : Option String := (value? environment fromFile name).map (·.1)
  let directories : Except SettingsError (Except (List Issue) (List String)) :=
    match value? environment fromFile "ENTITY_EXCLUDE_DIRS" with
    | none => .ok (.ok defaults.excludedDirectories)
    | some (s, inFile) =>
      match Json.read? s with
      | none => .error (.malformed "ENTITY_EXCLUDE_DIRS" inFile)
      | some v => .ok (textsOf "ENTITY_EXCLUDE_DIRS" v)
  match directories with
  | .error e => .error e
  | .ok directories =>
    let echo := checked (given "SQL_ECHO") "SQL_ECHO" defaults.sqlEcho boolOfText
    let log := checked (given "LOG_SQL") "LOG_SQL" defaults.logSql boolOfText
    let timeout := checked (given "MAPPER_READY_TIMEOUT") "MAPPER_READY_TIMEOUT" none
      fun s => some <$> floatOfText (some 0) s
    let strict := checked (given "TEMPLATE_STRICT_UNDEFINED") "TEMPLATE_STRICT_UNDEFINED"
      defaults.strictTemplates boolOfText
    match echo, log, timeout, strict, directories with
    | .ok sqlEcho, .ok logSql, .ok readyTimeout, .ok strictTemplates, .ok excludedDirectories =>
      .ok { databaseUrl := given "DATABASE_URL", sqlEcho, logSql, readyTimeout, strictTemplates,
            excludedDirectories }
    | _, _, _, _, _ =>
      let listIssues := match directories with
        | .ok _ => []
        | .error is => is
      .error (.invalid (issue? echo ++ issue? log ++ issue? timeout ++ issue? strict ++ listIssues))

/-- Why no engine can be made. -/
inductive UrlError
  /-- There is no address of a database. -/
  | missing
  | malformed
  /-- The named driver cannot wait. -/
  | notAsynchronous (driver : String)
  deriving Repr, DecidableEq

/-- The wording of an address error. -/
def UrlError.message : UrlError → String
  | missing => "database url is required (pass url= or set SQLDAO_DATABASE_URL)"
  | malformed => "Could not parse SQLAlchemy URL from given URL string"
  | notAsynchronous driver =>
    "The asyncio extension requires an async driver to be used. The loaded '" ++ driver ++
      "' is not async."

/-- The address of the database: the one given, or the one of the settings. -/
def address (url default : Option String) : Except UrlError String :=
  let nonEmpty (u : Option String) : Option String := u.filter (!·.isEmpty)
  match (nonEmpty url).or (nonEmpty default) with
  | none => .error .missing
  | some u =>
    let scheme := u.toList.takeWhile fun c => c.isAlphanum || c == '_' || c == '+'
    if scheme.isEmpty || !Text.startsWith "://".toList (u.toList.drop scheme.length) then
      .error .malformed
    else if String.ofList scheme == "sqlite" then .error (.notAsynchronous "pysqlite")
    else .ok u

end Settings
end SqlMapper
