import SqlMapper.Discovery.Module
import SqlMapper.Log
/-!
# SqlMapper.Discovery.Loader

Finding entity classes: the modules below a directory are loaded, and the tables of the classes that
they declare are made if they do not exist.

A module is loaded once: what it bound is kept under its path without links, whatever becomes of the
file. A module that fails is logged and passed over; it leaves nothing but the tables it has declared,
and is tried again next time.

A database compares the names of tables without regard to the case of their letters, and keeps some names for
itself, so two classes whose tables are different may not both get theirs.
-/

namespace SqlMapper.Discovery

/-- What loads modules: the files, the database, and what has been loaded so far. -/
structure Loader where
  tree : FileTree (List Item) := {}
  /-- How messages show the root of the tree. -/
  base : String
  declared : TableNames := catalogueTables
  /-- What the modules that have been loaded bind. -/
  loaded : List (Path × Namespace) := []
  /-- The tables in the database. -/
  tables : TableNames := []
  events : List Event := []

/-! ## Names of tables -/

/-- Words with a meaning of their own in a statement. -/
def reservedWords : List String :=
  ["add", "after", "all", "alter", "analyze", "and", "as", "asc", "attach", "autoincrement", "before", "begin",
   "between", "by", "cascade", "case", "cast", "check", "collate", "column", "commit", "conflict", "constraint",
   "create", "cross", "current_date", "current_time", "current_timestamp", "database", "default", "deferrable",
   "deferred", "delete", "desc", "detach", "distinct", "drop", "each", "else", "end", "escape", "except",
   "exclusive", "exists", "explain", "false", "fail", "for", "foreign", "from", "full", "glob", "group", "having",
   "if", "ignore", "immediate", "in", "index", "indexed", "initially", "inner", "insert", "instead", "intersect",
   "into", "is", "isnull", "join", "key", "left", "like", "limit", "match", "natural", "not", "notnull", "null",
   "of", "offset", "on", "or", "order", "outer", "plan", "pragma", "primary", "query", "raise", "references",
   "reindex", "rename", "replace", "restrict", "right", "rollback", "row", "select", "set", "table", "temp",
   "temporary", "then", "to", "transaction", "trigger", "true", "union", "unique", "update", "using", "vacuum",
   "values", "view", "virtual", "when", "where"]

/-- Can the character stand in a name without quotes? -/
def isBareChar (c : Char) : Bool := ('a' ≤ c && c ≤ 'z') || c.isDigit || c == '_' || c == '$'

/-- Is a name written without quotes in a statement? -/
def isBareName (name : String) : Bool :=
  !reservedWords.contains name && name.toList.all isBareChar &&
    !(name.toList.head?.any fun c => c.isDigit || c == '$')

/-- A name as it is written in a statement. -/
def written (name : String) : String :=
  if isBareName name then name
  else "\"" ++ String.ofList (name.toList.flatMap fun c => if c == '"' then ['"', '"'] else [c]) ++ "\""

/-- The tables in which a database keeps the names of all others. -/
def systemTables : TableNames := ["sqlite_master", "sqlite_schema", "sqlite_temp_master", "sqlite_temp_schema"]

/-- A name as a database compares it with others: the case of its letters does not matter. -/
def caseless (name : String) : List Char := name.toList.map Char.toLower

/-- Does a database keep a name for itself? -/
def isReserved (name : String) : Bool := "sqlite_".toList.isPrefixOf (caseless name)

/-- Why nothing is found. -/
inductive DiscoveryError
  /-- Links lead around in a circle. -/
  | circle (path : String)
  /-- A table that differs only in case has just been made. -/
  | tableExists (name : String)
  /-- The name of a table is kept for the database. -/
  | reserved (name : String)
  deriving Repr, DecidableEq

/-- The wording of an error. -/
def DiscoveryError.message : DiscoveryError → String
  | circle path => "Symlink loop from '" ++ path ++ "'"
  | tableExists name => "table " ++ written name ++ " already exists"
  | reserved name => "object name reserved for internal use: " ++ name

/-! ## Loading -/

/-- The ending of a module's name. -/
def moduleEnding : List Char := ".py".toList

/-- Is it the name of a module? -/
def isModuleName (name : String) : Bool := moduleEnding.isSuffixOf name.toList

namespace Loader

/-- How messages show a path. -/
def shown (s : Loader) (p : Path) : String := String.intercalate "/" (s.base :: p)

/-- Say that something has happened. -/
def log (s : Loader) (e : Event) : Loader := { s with events := s.events ++ [e] }

/-- The statements of the module at a path without links. -/
def items? (s : Loader) (p : Path) : Option (List Item) :=
  if isModuleName (p.getLast?.getD "") then
    match s.tree.get? p with
    | some (.file items) => some items
    | _ => none
  else none

/-- Load the module at a path without links; what it binds, or nothing if it fails. -/
def loadModule (s : Loader) (p : Path) : Option Namespace × Loader :=
  match s.loaded.lookup p with
  | some n => (some n, s)
  | none =>
    match s.items? p with
    | none => (none, s)
    | some items =>
      match runItems [] s.declared items with
      | (some n, declared) => (some n, { s with declared, loaded := s.loaded ++ [(p, n)] })
      | (none, declared) => (none, { s with declared })

/-- Add those of the classes that are not there. -/
def addNew (found : List Declared) (ds : List Declared) : List Declared :=
  found ++ ds.filter fun d => !found.contains d

/-- Load the modules at some paths, with the classes found so far. -/
def loadAll (s : Loader) (found : List Declared) :
    List Path → Except DiscoveryError (List Declared) × Loader
  | [] => (.ok found, s)
  | p :: rest =>
    match s.tree.realPath p with
    | .error q => (.error (.circle (s.shown q)), s)
    | .ok q =>
      match s.loadModule q with
      | (some n, s) => s.loadAll (addNew found n.entities) rest
      | (none, s) => (s.log (.moduleFailed (s.shown q))).loadAll found rest

/-- Is there a table of a name? -/
def hasTable (tables : TableNames) (name : String) : Bool :=
  (systemTables ++ tables).any fun t => caseless t == caseless name

/-- Make tables; one that has been made, or must not be made, fails the rest. -/
def makeTables (tables : TableNames) : TableNames → Option DiscoveryError × TableNames
  | [] => (none, tables)
  | t :: rest =>
    if isReserved t then (some (.reserved t), tables)
    else if hasTable tables t then (some (.tableExists t), tables)
    else makeTables (tables ++ [t]) rest

/-- Make the tables of some classes, except for those that exist. -/
def syncTables (s : Loader) (ds : List Declared) : Option DiscoveryError × Loader :=
  let missing := (ds.map (·.table)).filter fun t => !hasTable s.tables t
  let (error, tables) := makeTables s.tables missing
  (error, { s with tables })

/-- Load the modules below a directory, and make the tables of the classes that they declare. -/
def loadEntities (s : Loader) (dir : Path) (excluded : List String) :
    Except DiscoveryError (List Declared) × Loader :=
  match s.loadAll [] (s.tree.walk isModuleName excluded.contains dir) with
  | (.error e, s) => (.error e, s)
  | (.ok found, s) =>
    match s.syncTables found with
    | (some e, s) => (.error e, s)
    | (none, s) => (.ok found, s.log (.discovered (s.shown dir) (found.map (·.name))))

end Loader
end SqlMapper.Discovery
