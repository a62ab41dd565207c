import SqlMapper.Template.Tree
/-!
# SqlMapper.Template.Mention

The parts of expressions and the names that statements mention, in the order in which they are
written. What a name refers to depends on whether it is read or bound first (`firstRead`).
-/

namespace SqlMapper.Template

/-! ## Parts of expressions -/

mutual

/-- The expressions inside an expression, itself included, outermost first. Those that `skip` holds
of are left out with all that is in them. The flag tells what stands inside a choice. -/
def Expr.walk {ν : Type} (skip : Expr ν → Bool) (inChoice : Bool) (e : Expr ν) :
    List (Bool × Expr ν) :=
  if skip e then []
  else (inChoice, e) :: match e with
    | .lit _ | .var _ => []
    | .tuple xs | .list xs | .concat xs => walkAll skip inChoice xs
    | .dict entries => walkEntries skip inChoice entries
    | .choice test yes no _ =>
      yes.walk skip true ++ test.walk skip true ++ walkOption skip true no
    | .unary _ e | .attribute e _ => e.walk skip inChoice
    | .arith _ l r | .and l r | .or l r | .item l r => l.walk skip inChoice ++ r.walk skip inChoice
    | .compare l rest => l.walk skip inChoice ++ walkCompared skip inChoice rest
    | .slice a b c =>
      walkOption skip inChoice a ++ walkOption skip inChoice b ++ walkOption skip inChoice c
    | .call f args => f.walk skip inChoice ++ walkArgs skip inChoice args
    | .filter _ e args _ => walkOption skip inChoice e ++ walkArgs skip inChoice args
    | .test _ e args _ => e.walk skip inChoice ++ walkArgs skip inChoice args

/-- The expressions inside several. -/
def walkAll {ν : Type} (skip : Expr ν → Bool) (inChoice : Bool) :
    List (Expr ν) → List (Bool × Expr ν)
  | [] => []
  | e :: es => e.walk skip inChoice ++ walkAll skip inChoice es

/-- The expressions inside the entries of a mapping. -/
def walkEntries {ν : Type} (skip : Expr ν → Bool) (inChoice : Bool) :
    List (Expr ν × Expr ν) → List (Bool × Expr ν)
  | [] => []
  | (k, e) :: es => k.walk skip inChoice ++ e.walk skip inChoice ++ walkEntries skip inChoice es

/-- The expressions inside the right sides of comparisons. -/
def walkCompared {ν : Type} (skip : Expr ν → Bool) (inChoice : Bool) :
    List (CompareOp × Expr ν) → List (Bool × Expr ν)
  | [] => []
  | (_, e) :: es => e.walk skip inChoice ++ walkCompared skip inChoice es

/-- The expressions inside arguments. -/
def walkArgs {ν : Type} (skip : Expr ν → Bool) (inChoice : Bool) :
    List (Passing × Expr ν) → List (Bool × Expr ν)
  | [] => []
  | (_, e) :: es => e.walk skip inChoice ++ walkArgs skip inChoice es

/-- The expressions inside an optional one. -/
def walkOption {ν : Type} (skip : Expr ν → Bool) (inChoice : Bool) :
    Option (Expr ν) → List (Bool × Expr ν)
  | none => []
  | some e => e.walk skip inChoice

end

/-- The variables that an expression reads. -/
def Expr.reads {ν : Type} (e : Expr ν) : List ν :=
  (e.walk (fun _ => false) false).filterMap fun (_, e) =>
    match e with
    | .var x => some x
    | _ => none

mutual

/-- The variables of a target, with a flag for those that are records of which a field is set. -/
def Target.names {ν : Type} : Target ν → List (Bool × ν)
  | .var x => [(false, x)]
  | .field r _ => [(true, r)]
  | .tuple ts => targetNames ts

/-- The variables of several targets. -/
def targetNames {ν : Type} : List (Target ν) → List (Bool × ν)
  | [] => []
  | t :: ts => t.names ++ targetNames ts

end

/-! ## Mentions -/

/-- What a statement says about a name. -/
inductive Mention
  | read (name : String)
  /-- The name is assigned to; `parameter` if a scope begins with it. -/
  | bound (name : String) (parameter : Bool)
  /-- A block of this name. -/
  | block (name : String) (seesLocals : Bool) (line : Nat)
  deriving Repr, DecidableEq

/-- The mentions in an expression. -/
def Expr.mentions (e : Expr String) : List Mention := e.reads.map .read

/-- The mentions in a target. Setting a field of a record counts neither as read nor as bound. -/
def Target.mentions (parameter : Bool) (t : Target String) : List Mention :=
  t.names.filterMap fun (isField, x) => if isField then none else some (.bound x parameter)

mutual

/-- The mentions in a statement, those inside of blocks on demand. -/
def Stmt.mentions (insideBlocks : Bool) : Stmt → List Mention
  | .output pieces => pieces.flatMap fun p =>
    match p with
    | .data _ => []
    | .print e => e.mentions
  | .choice test body more otherwise =>
    test.mentions ++ mentionsAll insideBlocks body ++ mentionsMore insideBlocks more ++
      mentionsAll insideBlocks otherwise
  | .loop target source test _ body otherwise _ =>
    target.mentions false ++ source.mentions ++ mentionsAll insideBlocks body ++
      mentionsAll insideBlocks otherwise ++ (test.map Expr.mentions).getD []
  | .assign target e => target.mentions false ++ e.mentions
  | .capture target filter body =>
    target.mentions false ++ (filter.map Expr.mentions).getD [] ++ mentionsAll insideBlocks body
  | .withVars bindings body =>
    bindings.flatMap (fun (t, _) => t.mentions true) ++
      bindings.flatMap (fun (_, e) => e.mentions) ++ mentionsAll insideBlocks body
  | .define _ params defaults body _ =>
    params.map (.bound · true) ++ defaults.flatMap Expr.mentions ++ mentionsAll insideBlocks body
  | .callBlock params defaults call body _ =>
    call.mentions ++ params.map (.bound · true) ++ defaults.flatMap Expr.mentions ++
      mentionsAll insideBlocks body
  | .clause _ body _ => mentionsAll insideBlocks body
  | .filterBlock filter body => mentionsAll insideBlocks body ++ filter.mentions
  | .escaping value body => value.mentions ++ mentionsAll insideBlocks body
  | .block name seesLocals _ body line =>
    .block name seesLocals line :: if insideBlocks then mentionsAll insideBlocks body else []
  | .foreign _ template _ => template.mentions

/-- The mentions in statements in a row. -/
def mentionsAll (insideBlocks : Bool) : List Stmt → List Mention
  | [] => []
  | s :: ss => s.mentions insideBlocks ++ mentionsAll insideBlocks ss

/-- The mentions in further branches of a choice. -/
def mentionsMore (insideBlocks : Bool) : List (Expr String × List Stmt) → List Mention
  | [] => []
  | (test, body) :: more =>
    test.mentions ++ mentionsAll insideBlocks body ++ mentionsMore insideBlocks more

end

/-- Is a name read by statements before they bind it? What is inside of blocks does not count. -/
def firstRead (name : String) (body : List Stmt) : Bool :=
  let about := (mentionsAll false body).find? fun m =>
    match m with
    | .read x | .bound x _ => x == name
    | .block .. => false
  match about with
  | some (.read _) => true
  | _ => false

/-- Does a statement contain a block that sees the variables around it? -/
def Stmt.hasSeeingBlock (s : Stmt) : Bool :=
  (s.mentions true).any fun m =>
    match m with
    | .block _ seesLocals _ => seesLocals
    | _ => false

/-- Does a statement assign to a name, other than as a parameter? -/
def Stmt.assigns (s : Stmt) (name : String) : Bool :=
  (s.mentions true).any fun m =>
    match m with
    | .bound x parameter => x == name && !parameter
    | _ => false

end SqlMapper.Template
