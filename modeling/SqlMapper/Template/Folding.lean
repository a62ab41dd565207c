import SqlMapper.Template.Link
/-!
# SqlMapper.Template.Folding

What is left of a template when its constants have been worked out. Working out the constants of an expression
replaces its constant operands by their values, and with an operand the variables in it are gone: of
`(false and x) ~ y` only `y` is left. The names that a template is said to expect are those that are looked up
by what is left.

In a constant no variable is read, so a value takes the place of an operand here by taking its variables out:
what is left of the operand has the same value.
-/

namespace SqlMapper.Template

/-- How an expression is met when constants are worked out. -/
inductive Folding
  /-- It stands by itself: only its operands are replaced. -/
  | whole
  /-- It is an operand: if it is constant, it is replaced. -/
  | operand
  /-- It is part of a constant. -/
  | constant
  deriving Repr, DecidableEq

/-- An expression with its names outside of all scopes. Whether it is constant does not depend on where its
variables are kept. -/
def Expr.unplaced (e : Expr String) : Code := e.resolve [] ⟨0, 0, ""⟩

/-- How the parts of an expression are met. What a sequence, a mapping or a slice that stands by itself
consists of stands by itself too. -/
def Folding.ofParts (strict : Bool) (how : Folding) (e : Expr String) : Folding :=
  match how with
  | .constant => .constant
  | .operand => if isKnown strict e.unplaced then .constant else .operand
  | .whole =>
    match e with
    | .tuple _ | .list _ | .dict _ | .slice .. => .whole
    | _ => .operand

mutual

/-- What is left of an expression. -/
def Expr.fold (strict : Bool) (how : Folding) (e : Expr String) : Expr String :=
  let parts := how.ofParts strict e
  match e with
  | .lit l => .lit l
  | .var x => if parts = .constant then .lit .null else .var x
  | .tuple xs => .tuple (foldAll strict parts xs)
  | .list xs => .list (foldAll strict parts xs)
  | .dict es => .dict (foldEntries strict parts es)
  | .choice test yes no line =>
    .choice (test.fold strict parts) (yes.fold strict parts) (foldOption strict parts no) line
  | .unary op e => .unary op (e.fold strict parts)
  | .arith op l r => .arith op (l.fold strict parts) (r.fold strict parts)
  | .and l r => .and (l.fold strict parts) (r.fold strict parts)
  | .or l r => .or (l.fold strict parts) (r.fold strict parts)
  | .compare l rest => .compare (l.fold strict parts) (foldCompared strict parts rest)
  | .concat xs => .concat (foldAll strict parts xs)
  | .attribute e name => .attribute (e.fold strict parts) name
  | .item e key => .item (e.fold strict parts) (key.fold strict parts)
  | .slice a b c =>
    .slice (foldOption strict parts a) (foldOption strict parts b) (foldOption strict parts c)
  | .call f args => .call (f.fold strict parts) (foldArgs strict parts args)
  | .filter name e args line => .filter name (foldOption strict parts e) (foldArgs strict parts args) line
  | .test name e args line => .test name (e.fold strict parts) (foldArgs strict parts args) line

/-- What is left of several expressions. -/
def foldAll (strict : Bool) (how : Folding) : List (Expr String) → List (Expr String)
  | [] => []
  | e :: es => e.fold strict how :: foldAll strict how es

/-- What is left of the entries of a mapping. -/
def foldEntries (strict : Bool) (how : Folding) :
    List (Expr String × Expr String) → List (Expr String × Expr String)
  | [] => []
  | (k, e) :: es => (k.fold strict how, e.fold strict how) :: foldEntries strict how es

/-- What is left of the right sides of comparisons. -/
def foldCompared (strict : Bool) (how : Folding) :
    List (CompareOp × Expr String) → List (CompareOp × Expr String)
  | [] => []
  | (op, e) :: es => (op, e.fold strict how) :: foldCompared strict how es

/-- What is left of arguments. -/
def foldArgs (strict : Bool) (how : Folding) :
    List (Passing × Expr String) → List (Passing × Expr String)
  | [] => []
  | (p, e) :: es => (p, e.fold strict how) :: foldArgs strict how es

/-- What is left of an optional expression. -/
def foldOption (strict : Bool) (how : Folding) : Option (Expr String) → Option (Expr String)
  | none => none
  | some e => some (e.fold strict how)

end

/-- What is left of an expression that stands by itself. -/
def Expr.folded (strict : Bool) (e : Expr String) : Expr String := e.fold strict .whole

/-- What is left of a piece of output. A constant has become text as a whole before. -/
def Piece.folded (strict : Bool) : Piece String → Piece String
  | .data s => .data s
  | .print e =>
    if (constantText? strict e.unplaced).isSome then .print e else .print (e.folded strict)

mutual

/-- What is left of a statement. -/
def Stmt.folded (strict : Bool) : Stmt → Stmt
  | .output pieces => .output (pieces.map (Piece.folded strict))
  | .choice test body more otherwise =>
    .choice (test.folded strict) (foldBody strict body) (foldBranches strict more) (foldBody strict otherwise)
  | .loop target source test recursive body otherwise line =>
    .loop target (source.folded strict) (test.map (Expr.folded strict)) recursive (foldBody strict body)
      (foldBody strict otherwise) line
  | .assign target e => .assign target (e.folded strict)
  | .capture target filter body =>
    .capture target (filter.map (Expr.folded strict)) (foldBody strict body)
  | .withVars bindings body =>
    .withVars (bindings.map fun (t, e) => (t, e.folded strict)) (foldBody strict body)
  | .define name params defaults body line =>
    .define name params (defaults.map (Expr.folded strict)) (foldBody strict body) line
  | .callBlock params defaults call body line =>
    .callBlock params (defaults.map (Expr.folded strict)) (call.folded strict) (foldBody strict body) line
  | .clause kind body line => .clause kind (foldBody strict body) line
  | .filterBlock filter body => .filterBlock (filter.folded strict) (foldBody strict body)
  | .escaping value body => .escaping (value.folded strict) (foldBody strict body)
  | .block name seesLocals required body line =>
    .block name seesLocals required (foldBody strict body) line
  | .foreign kind template names => .foreign kind (template.folded strict) names

/-- What is left of statements in a row. -/
def foldBody (strict : Bool) : List Stmt → List Stmt
  | [] => []
  | s :: ss => s.folded strict :: foldBody strict ss

/-- What is left of further branches of a choice. -/
def foldBranches (strict : Bool) : List (Expr String × List Stmt) → List (Expr String × List Stmt)
  | [] => []
  | (test, body) :: more => (test.folded strict, foldBody strict body) :: foldBranches strict more

end

end SqlMapper.Template
