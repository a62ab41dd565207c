import SqlMapper.Value.Arithmetic
/-!
# SqlMapper.Template.Tree

The tree of a template as it is written. Expressions are parametrised by what stands for a variable:
in the tree as written that is its name, in a linked template (`SqlMapper.Template.Program`) the
place where its value is kept.
-/

namespace SqlMapper.Template

/-- Constants. -/
inductive Literal
  | null
  | bool (b : Bool)
  | int (n : Int)
  | float (x : Float)
  | str (s : String)
  deriving Repr, Inhabited

/-- The value of a constant. -/
def Literal.value : Literal → Value
  | null => .null
  | bool b => .bool b
  | int n => .int n
  | float x => .float x
  | str s => .str s

/-- Operators with one operand. -/
inductive UnaryOp
  | not
  | negate
  | plus
  deriving Repr, DecidableEq

/-- Comparisons. -/
inductive CompareOp
  | eq
  | ne
  | order (op : OrderOp)
  | isIn
  | notIn
  deriving Repr, DecidableEq

/-- How an argument is passed. -/
inductive Passing
  | positional
  | named (name : String)
  /-- The elements of a sequence, by position. -/
  | spread
  /-- The entries of a mapping, by name. -/
  | spreadNamed
  deriving Repr, DecidableEq

/-- Expressions. -/
inductive Expr (ν : Type)
  | lit (l : Literal)
  | var (x : ν)
  | tuple (xs : List (Expr ν))
  | list (xs : List (Expr ν))
  | dict (entries : List (Expr ν × Expr ν))
  /-- A choice; the line is where it stands. -/
  | choice (test yes : Expr ν) (no : Option (Expr ν)) (line : Nat)
  | unary (op : UnaryOp) (e : Expr ν)
  | arith (op : ArithOp) (l r : Expr ν)
  | and (l r : Expr ν)
  | or (l r : Expr ν)
  | compare (l : Expr ν) (rest : List (CompareOp × Expr ν))
  /-- The texts of several values, joined. -/
  | concat (xs : List (Expr ν))
  | attribute (e : Expr ν) (name : String)
  | item (e key : Expr ν)
  /-- A slice, as the key of an item. -/
  | slice (start stop step : Option (Expr ν))
  | call (f : Expr ν) (args : List (Passing × Expr ν))
  /-- A filter; one without an operand applies to the text of a block. -/
  | filter (name : String) (e : Option (Expr ν)) (args : List (Passing × Expr ν)) (line : Nat)
  | test (name : String) (e : Expr ν) (args : List (Passing × Expr ν)) (line : Nat)
  deriving Inhabited

/-- What a value is assigned to. -/
inductive Target (ν : Type)
  | var (x : ν)
  | tuple (xs : List (Target ν))
  /-- A field of a record. -/
  | field (record : ν) (name : String)
  deriving Inhabited

/-- The clauses that are written only if their body leaves something. -/
inductive ClauseKind
  /-- Conditions: a leading connective is dropped. -/
  | conditions
  /-- Assignments: a trailing comma is dropped. -/
  | assignments
  deriving Repr, DecidableEq

/-- Tags that ask for another template. -/
inductive Foreign
  /-- The template that this one fills in. -/
  | base
  /-- The text of another template. -/
  | text
  /-- Another template's names, under one name. -/
  | library
  /-- Some of another template's names. -/
  | names
  deriving Repr, DecidableEq

/-- A piece of output. -/
inductive Piece (ν : Type)
  | data (s : String)
  | print (e : Expr ν)
  deriving Inhabited

/-- Statements, as written. -/
inductive Stmt
  | output (pieces : List (Piece String))
  | choice (test : Expr String) (body : List Stmt) (more : List (Expr String × List Stmt))
      (otherwise : List Stmt)
  | loop (target : Target String) (source : Expr String) (test : Option (Expr String))
      (recursive : Bool) (body otherwise : List Stmt) (line : Nat)
  | assign (target : Target String) (e : Expr String)
  /-- The text of a block, after an optional filter, becomes the value of the target. -/
  | capture (target : Target String) (filter : Option (Expr String)) (body : List Stmt)
  | withVars (bindings : List (Target String × Expr String)) (body : List Stmt)
  /-- A named piece with parameters; the last parameters have the defaults given. -/
  | define (name : String) (params : List String) (defaults : List (Expr String))
      (body : List Stmt) (line : Nat)
  /-- A call that receives the block as a function. -/
  | callBlock (params : List String) (defaults : List (Expr String)) (call : Expr String)
      (body : List Stmt) (line : Nat)
  | clause (kind : ClauseKind) (body : List Stmt) (line : Nat)
  | filterBlock (filter : Expr String) (body : List Stmt)
  | escaping (value : Expr String) (body : List Stmt)
  | block (name : String) (seesLocals required : Bool) (body : List Stmt) (line : Nat)
  /-- A tag that asks for another template, with the names that it would bind. -/
  | foreign (kind : Foreign) (template : Expr String) (names : List String)
  deriving Inhabited

/-- Why a template cannot be used, and the line. -/
structure Fault where
  reason : String
  line : Nat
  deriving Repr, DecidableEq

end SqlMapper.Template
