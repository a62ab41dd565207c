import SqlMapper.Discovery.Loader
/-!
# SqlMapper.Discovery.Database

A load and the database that it is given. A loader knows the tables of a database by their names only
(`Loader.tables`). In the database each table also holds something, its columns and its rows, which no load
looks at: all that a load sends are statements that make tables (`Database.create`).

`Loader.loadInto` is `Loader.loadEntities` with the database beside the loader.
-/

namespace SqlMapper.Discovery

/-- The tables of a database in the order in which they were made, each with what it holds. -/
abbrev Database (τ : Type) := List (String × τ)

namespace Database

variable {τ : Type}

/-- The names of the tables. -/
def names (db : Database τ) : TableNames := db.map (·.1)

/-- Is there a table of a name? -/
def has (db : Database τ) (name : String) : Bool := Loader.hasTable db.names name

/-- Make a table, which then holds what a new one does. A table that is there is not made again. -/
def create (fresh : String → τ) (db : Database τ) (t : String) : Except DiscoveryError (Database τ) :=
  if isReserved t then .error (.reserved t)
  else if db.has t then .error (.tableExists t)
  else .ok (db ++ [(t, fresh t)])

end Database

end SqlMapper.Discovery
