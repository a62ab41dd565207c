import SqlMapper.Discovery.FileTree
import SqlMapper.Entity.Catalogue
/-!
# SqlMapper.Discovery.Module

Modules that declare entity classes, and what executing one leaves: the names it binds, in the order
in which they were first bound. The names of tables are known to all modules: a table that has
once been declared cannot be declared again, also if the module that declared it failed later.
-/

namespace SqlMapper.Discovery

/-- One statement of a module. -/
inductive Item
  /-- Declare an entity class with a table. -/
  | table (name table : String)
  /-- Declare an entity class without a table. -/
  | record (name : String)
  /-- Declare another class. -/
  | plain (name : String)
  /-- Bind another name to what a name is bound to. -/
  | rebind (name source : String)
  /-- Bind a class of the catalogue. -/
  | reference (name : String)
  /-- Make an instance of a class without giving any values. -/
  | makeInstance (name : String)
  /-- Fail. -/
  | fail (reason : String)
  deriving Repr, DecidableEq

/-- An entity class that a module has declared. Its table tells it from all others. -/
structure Declared where
  name : String
  table : String
  deriving Repr, DecidableEq

/-- What a name is bound to. -/
inductive Binding
  | declared (d : Declared)
  /-- Something else; can an instance be made of it without giving any values? -/
  | other (constructible : Bool)
  deriving Repr, DecidableEq

/-- The names that a module binds. -/
abbrev Namespace := List (String × Binding)

/-- The names of the tables that have been declared. -/
abbrev TableNames := List String

/-- The tables of the catalogue are declared from the beginning. -/
def catalogueTables : TableNames := Catalogue.mapped.filterMap (·.table?)

/-- Bind a name, which keeps its place if it was bound before. -/
def Namespace.bind (n : Namespace) (name : String) (b : Binding) : Namespace :=
  match n with
  | [] => [(name, b)]
  | (k, old) :: rest =>
    if k = name then (k, b) :: rest else (k, old) :: Namespace.bind rest name b

/-- Can an instance of a class be made without giving any values? A stored class asks for none, since
its values are not validated. -/
def isConstructible (c : EntityClass) : Bool :=
  c.isMapped || c.fields.all (·.default != .required)

/-- Execute one statement; nothing if it fails. -/
def Item.run (n : Namespace) (tables : TableNames) : Item → Option Namespace × TableNames
  | table name t =>
    if tables.contains t then (none, tables)
    else (some (n.bind name (.declared ⟨name, t⟩)), tables ++ [t])
  | record name => (some (n.bind name (.other true)), tables)
  | plain name => (some (n.bind name (.other true)), tables)
  | rebind name source =>
    match n.lookup source with
    | some b => (some (n.bind name b), tables)
    | none => (none, tables)
  | reference name =>
    match Catalogue.find? name with
    | some c => (some (n.bind name (.other (isConstructible c))), tables)
    | none => (none, tables)
  | makeInstance name =>
    match n.lookup name with
    | some (.declared _) | some (.other true) => (some n, tables)
    | _ => (none, tables)
  | fail _ => (none, tables)

/-- Execute statements up to the first one that fails. -/
def runItems (n : Namespace) (tables : TableNames) : List Item → Option Namespace × TableNames
  | [] => (some n, tables)
  | i :: rest =>
    match i.run n tables with
    | (some n, tables) => runItems n tables rest
    | (none, tables) => (none, tables)

/-- The entity classes that a namespace binds, each once. -/
def Namespace.entities (n : Namespace) : List Declared :=
  (n.filterMap fun (_, b) =>
    match b with
    | .declared d => some d
    | .other _ => none).eraseDups

end SqlMapper.Discovery
