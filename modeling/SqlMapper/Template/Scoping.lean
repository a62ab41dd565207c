import SqlMapper.Template.Mention
import SqlMapper.Template.Program
/-!
# SqlMapper.Template.Scoping

Which variables a scope has, and where each gets its value when the scope is entered. A name that is
read before anything is assigned to it comes from the enclosing scopes if one of them has it, and
from outside the template if none has. A name that is assigned to belongs to the scope itself; it
starts with the value of the enclosing scope, if there is one.

The branches of a choice are looked at one by one; what only some of them assign to may be read after
the choice and therefore starts with the value from further out.
-/

namespace SqlMapper.Template

/-- Where a variable of a scope gets its first value. -/
inductive Source
  | given
  | outside
  /-- From the enclosing scope that has the same name. -/
  | enclosing
  | unset
  /-- It is the template's reference to itself. -/
  | itself
  deriving Repr, DecidableEq

/-- The variables of a scope. -/
structure Names where
  slots : List (String × Source) := []
  /-- The names that the scope assigns to. -/
  stored : List String := []
  deriving Inhabited

/-- The names of the enclosing scopes, the innermost first. -/
abbrev Enclosing := List (List String)

/-- Does an enclosing scope have a name? -/
def Enclosing.has (outer : Enclosing) (name : String) : Bool := outer.any (·.contains name)

namespace Names

/-- The names of the variables, slot by slot. -/
def names (ns : Names) : List String := ns.slots.map (·.1)

/-- Has the scope a variable of its own of this name? -/
def has (ns : Names) (name : String) : Bool := ns.names.contains name

/-- Give a variable a source, or add it. -/
def put (ns : Names) (name : String) (source : Source) : Names :=
  if ns.has name then
    { ns with slots := ns.slots.map fun (x, s) => (x, if x == name then source else s) }
  else { ns with slots := ns.slots ++ [(name, source)] }

/-- Note that a name is stored. -/
def note (ns : Names) (name : String) : Names :=
  if ns.stored.contains name then ns else { ns with stored := ns.stored ++ [name] }

/-- A variable that whoever enters the scope sets. -/
def give (name : String) (ns : Names) : Names := (ns.note name).put name .given

/-- A name is read. -/
def read (outer : Enclosing) (ns : Names) (name : String) : Names :=
  if ns.has name || outer.has name then ns else ns.put name .outside

/-- A name is assigned to. -/
def store (outer : Enclosing) (ns : Names) (name : String) : Names :=
  let ns := ns.note name
  if ns.has name then ns
  else ns.put name (if outer.has name then .enclosing else .unset)

/-- The names in an expression are read. -/
def readAll (outer : Enclosing) (ns : Names) (e : Expr String) : Names :=
  e.reads.foldl (read outer) ns

/-- A target is assigned to; a record whose field is set is read. -/
def storeTarget (outer : Enclosing) (ns : Names) (t : Target String) : Names :=
  t.names.foldl (fun ns (isField, x) => if isField then ns.read outer x else ns.store outer x) ns

/-- The variables of a target are given. -/
def giveTarget (ns : Names) (t : Target String) : Names :=
  t.names.foldl (fun ns (isField, x) => if isField then ns else ns.give x) ns

/-- Bring together what the branches of a choice do. -/
def merge (outer : Enclosing) (ns : Names) (branches : List Names) : Names :=
  let all := branches.foldl (fun acc b =>
    b.stored.foldl note (b.slots.foldl (fun acc (x, s) => acc.put x s) acc)) ns
  let fresh := (branches.flatMap stored).filter fun x => !ns.stored.contains x
  fresh.foldl (fun acc x => acc.put x (if outer.has x then .enclosing else .outside)) all

mutual

/-- What a statement does to the names of the scope that it stands in. Inner scopes count only for
what is evaluated outside of them. -/
def ofStmt (outer : Enclosing) (ns : Names) : Stmt → Names
  | .output pieces => pieces.foldl (fun ns p =>
      match p with
      | .data _ => ns
      | .print e => ns.readAll outer e) ns
  | .choice test body more otherwise =>
    let ns := ns.readAll outer test
    ns.merge outer [ofBody outer ns body, ofBranches outer ns more, ofBody outer ns otherwise]
  | .loop _ source _ _ _ _ _ => ns.readAll outer source
  | .assign target e => (ns.readAll outer e).storeTarget outer target
  | .capture target _ _ => ns.storeTarget outer target
  | .withVars bindings _ => bindings.foldl (fun ns (_, e) => ns.readAll outer e) ns
  | .define name _ _ _ _ => ns.store outer name
  | .callBlock _ _ call _ _ => ns.readAll outer call
  | .clause .. | .escaping .. | .block .. => ns
  | .filterBlock filter _ => ns.readAll outer filter
  | .foreign _ template names => names.foldl (store outer) (ns.readAll outer template)

/-- What statements in a row do. -/
def ofBody (outer : Enclosing) (ns : Names) : List Stmt → Names
  | [] => ns
  | s :: ss => ofBody outer (ofStmt outer ns s) ss

/-- What further branches of a choice do, each a choice of its own. -/
def ofBranches (outer : Enclosing) (ns : Names) : List (Expr String × List Stmt) → Names
  | [] => ns
  | (test, body) :: more =>
    let ns := ns.readAll outer test
    ofBranches outer (ns.merge outer [ofBody outer ns body, ns, ns]) more

end

end Names
end SqlMapper.Template
