import SqlMapper.Template.Constant
import SqlMapper.Template.Scoping
/-!
# SqlMapper.Template.Link

From the tree of a template to its program: every name is replaced by the place of its value, and
what cannot be right is refused, such as filters that do not exist. Inside a choice that is left to
the run, since the branch may not be taken.
-/

namespace SqlMapper.Template

/-- Why linking fails. -/
inductive LinkError
  | fault (f : Fault)
  /-- A constant cannot be written. -/
  | failure (e : Failure)
  deriving Repr, DecidableEq

/-- What has been gathered so far. -/
structure Gathered where
  externals : List String := []
  loops : List Loop := []
  snippets : List Snippet := []

/-- A step of linking. -/
abbrev Link := StateT Gathered (Except LinkError)

/-- Refuse the template. -/
def refuse {α : Type} (reason : String) (line : Nat) : Link α := throw (.fault ⟨reason, line⟩)

/-- The number of a name that is looked up outside. -/
def external (name : String) : Link Nat := do
  let g ← get
  match g.externals.idxOf? name with
  | some i => return i
  | none =>
    set { g with externals := g.externals ++ [name] }
    return g.externals.length

/-- Add a loop. -/
def addLoop (l : Loop) : Link Nat := do
  let g ← get
  set { g with loops := g.loops ++ [l] }
  return g.loops.length

/-- Add a snippet. -/
def addSnippet (s : Snippet) : Link Nat := do
  let g ← get
  set { g with snippets := g.snippets ++ [s] }
  return g.snippets.length

/-! ## Names to places -/

/-- The place of a name, searched from the innermost scope outwards. -/
def Enclosing.find? (name : String) (depth : Nat) : Enclosing → Option Place
  | [] => none
  | names :: outer =>
    match names.idxOf? name with
    | some slot => some ⟨depth, slot, name⟩
    | none => find? name (depth + 1) outer

/-- The place of a name. One that no scope has is a place without a value. -/
def Enclosing.place (env : Enclosing) (name : String) : Place :=
  (env.find? name 0).getD ⟨env.length, 0, name⟩

mutual

/-- Replace names by places. A filter without operand reads the given place. -/
def Expr.resolve (env : Enclosing) (operand : Place) : Expr String → Code
  | .lit l => .lit l
  | .var x => .var (env.place x)
  | .tuple xs => .tuple (resolveAll env operand xs)
  | .list xs => .list (resolveAll env operand xs)
  | .dict es => .dict (resolveEntries env operand es)
  | .choice test yes no line =>
    .choice (test.resolve env operand) (yes.resolve env operand) (resolveOption env operand no) line
  | .unary op e => .unary op (e.resolve env operand)
  | .arith op l r => .arith op (l.resolve env operand) (r.resolve env operand)
  | .and l r => .and (l.resolve env operand) (r.resolve env operand)
  | .or l r => .or (l.resolve env operand) (r.resolve env operand)
  | .compare l rest => .compare (l.resolve env operand) (resolveCompared env operand rest)
  | .concat xs => .concat (resolveAll env operand xs)
  | .attribute e name => .attribute (e.resolve env operand) name
  | .item e key => .item (e.resolve env operand) (key.resolve env operand)
  | .slice a b c =>
    .slice (resolveOption env operand a) (resolveOption env operand b) (resolveOption env operand c)
  | .call f args => .call (f.resolve env operand) (resolveArgs env operand args)
  | .filter name none args line => .filter name (some (.var operand)) (resolveArgs env operand args) line
  | .filter name (some e) args line =>
    .filter name (some (e.resolve env operand)) (resolveArgs env operand args) line
  | .test name e args line => .test name (e.resolve env operand) (resolveArgs env operand args) line

/-- Replace names in several expressions. -/
def resolveAll (env : Enclosing) (operand : Place) : List (Expr String) → List Code
  | [] => []
  | e :: es => e.resolve env operand :: resolveAll env operand es

/-- Replace names in the entries of a mapping. -/
def resolveEntries (env : Enclosing) (operand : Place) :
    List (Expr String × Expr String) → List (Code × Code)
  | [] => []
  | (k, e) :: es =>
    (k.resolve env operand, e.resolve env operand) :: resolveEntries env operand es

/-- Replace names in the right sides of comparisons. -/
def resolveCompared (env : Enclosing) (operand : Place) :
    List (CompareOp × Expr String) → List (CompareOp × Code)
  | [] => []
  | (op, e) :: es => (op, e.resolve env operand) :: resolveCompared env operand es

/-- Replace names in arguments. -/
def resolveArgs (env : Enclosing) (operand : Place) :
    List (Passing × Expr String) → List (Passing × Code)
  | [] => []
  | (p, e) :: es => (p, e.resolve env operand) :: resolveArgs env operand es

/-- Replace names in an optional expression. -/
def resolveOption (env : Enclosing) (operand : Place) : Option (Expr String) → Option Code
  | none => none
  | some e => some (e.resolve env operand)

end

mutual

/-- Replace names by places in a target. -/
def Target.resolve (env : Enclosing) : Target String → Target Place
  | .var x => .var (env.place x)
  | .field r name => .field (env.place r) name
  | .tuple ts => .tuple (resolveTargets env ts)

/-- Replace names by places in several targets. -/
def resolveTargets (env : Enclosing) : List (Target String) → List (Target Place)
  | [] => []
  | t :: ts => t.resolve env :: resolveTargets env ts

end

/-! ## Where code stands -/

/-- Where code stands. -/
structure Site where
  /-- The scopes in sight, the innermost first. -/
  env : Enclosing
  /-- The names that any of these scopes assigns to. -/
  stored : List String
  /-- The outermost scope of the template, by its names and the ones that it assigns to. -/
  root : Names
  /-- Does it stand inside a choice? -/
  inChoice : Bool
  /-- Are absent values strict? -/
  strict : Bool

namespace Site

/-- A place that no scope has. -/
def nowhere (site : Site) : Place := ⟨site.env.length, 0, ""⟩

/-- The site in an inner scope. -/
def inner (site : Site) (ns : Names) : Site :=
  { site with env := ns.names :: site.env, stored := ns.stored ++ site.stored, inChoice := false }

/-- The slots of a scope that stands here. -/
def close (site : Site) (ns : Names) : Link Scope :=
  ns.slots.mapM fun (name, source) =>
    match source with
    | .given => pure .given
    | .unset => pure .unset
    | .itself => pure .itself
    | .enclosing => pure (.copied (site.env.place name))
    | .outside => return .outside (← external name)

/-- The slots of a block's scope. The block sees what the outermost scope exports, and on demand what
the scopes around it assign to. -/
def closeBlock (site : Site) (seesLocals : Bool) (ns : Names) : Link Scope :=
  ns.slots.mapM fun (name, source) =>
    match source with
    | .given => pure .given
    | .itself => pure .itself
    | _ => do
      if seesLocals && site.stored.contains name then return .copied (site.env.place name)
      match site.root.names.idxOf? name with
      | some slot =>
        if site.root.stored.contains name then return .exported slot (← external name)
        return .outside (← external name)
      | none => return .outside (← external name)

/-- Refuse filters and tests that do not exist. -/
def check (site : Site) (e : Code) : Link Unit :=
  (e.walk (isKnown site.strict) site.inChoice).forM fun (inChoice, e) =>
    if inChoice then pure ()
    else
      match e with
      | .filter name _ _ line =>
        if filterNames.contains name then pure ()
        else refuse ("No filter named " ++ Text.quoted name ++ ".") line
      | .test name _ _ line =>
        if testNames.contains name then pure ()
        else refuse ("No test named " ++ Text.quoted name ++ ".") line
      | _ => pure ()

/-- Link an expression that may have to read the text of a block. -/
def exprOn (site : Site) (operand : Place) (e : Expr String) : Link Code := do
  let code := e.resolve site.env operand
  site.check code
  return code

/-- Link an expression. -/
def expr (site : Site) (e : Expr String) : Link Code := site.exprOn site.nowhere e

/-- Link output: what is constant becomes text. -/
def output (site : Site) (pieces : List (Piece String)) : Link (List Node) := do
  let nodes ← pieces.mapM fun p =>
    match p with
    | .data s => pure (.text s)
    | .print e => do
      let code := e.resolve site.env site.nowhere
      match constantText? site.strict code with
      | some (.ok s) => return .text s
      | some (.error f) => throw (.failure f)
      | none => return .print code
  nodes.forM fun n =>
    match n with
    | .print code => site.check code
    | _ => pure ()
  return nodes

end Site

/-! ## Statements -/

/-- The names of a snippet's scope, with the special ones that its body reads: the block of a call,
further named arguments and further positional arguments. -/
def snippetNames (outer : Enclosing) (params : List String) (defaults : List (Expr String))
    (body : List Stmt) : Names :=
  let ns := params.foldl (fun ns p => ns.give p) {}
  let ns := Names.ofBody outer (defaults.foldl (Names.readAll outer) ns) body
  (["caller", "kwargs", "varargs"].filter fun x => firstRead x body && !params.contains x).foldl
    (fun ns x => ns.give x) ns

/-- The slot of a special name of a snippet. -/
def specialSlot? (ns : Names) (params : List String) (body : List Stmt) (name : String) :
    Option Nat :=
  if firstRead name body && !params.contains name then ns.names.idxOf? name else none

/-- Link a snippet and give its number; how its body is linked is given. -/
def linkSnippet (site : Site) (name : Option String) (params : List String)
    (defaults : List (Expr String)) (body : List Stmt)
    (line : Nat) (linkIn : Site → Link (List Node)) : Link Nat := do
  let ns := snippetNames site.env params defaults body
  let inside := site.inner ns
  if firstRead "caller" body then
    if (params.take (params.length - defaults.length)).contains "caller" then
      refuse ("When defining macros or call blocks the special \"caller\" argument must be " ++
        "omitted or be given a default.") line
  let scope ← site.close ns
  let defaults ← defaults.mapM inside.expr
  let special := specialSlot? ns params body
  let body ← linkIn inside
  let callerSlot := special "caller"
  let namedSlot := special "kwargs"
  let restSlot := special "varargs"
  addSnippet { name, params, defaults, callerSlot, namedSlot, restSlot, scope, body }

mutual

/-- Link a statement. -/
def linkStmt (site : Site) : Stmt → Link (List Node)
  | .output pieces => site.output pieces
  | .choice test body more otherwise => do
    let soft := { site with inChoice := true }
    let test ← soft.expr test
    let body ← linkBody soft body
    let more ← linkBranches soft more
    return [.choice test body more (← linkBody soft otherwise)]
  | .loop target source test recursive body otherwise line => do
    let counted := recursive || firstRead "loop" body ||
      (Stmt.loop target source test recursive body otherwise line).hasSeeingBlock
    let ns : Names := if counted then Names.give "loop" {} else {}
    let ns := Names.ofBody site.env (ns.giveTarget target) body
    let inside := site.inner ns
    let test ← match test with
      | none => pure none
      | some t => do
        let names := (Names.giveTarget {} target).readAll site.env t
        let there := site.inner names
        let code ← there.expr t
        pure (some (← site.close names, target.resolve there.env, code))
    if (Stmt.loop target source none recursive body otherwise line).assigns "loop" then
      refuse "Can't assign to special loop variable in for-loop target" line
    let source ← site.expr source
    let scope ← site.close ns
    let body ← linkBody inside body
    let elseNames := Names.ofBody site.env {} otherwise
    let otherwiseScope ← site.close elseNames
    let otherwise ← linkBody (site.inner elseNames) otherwise
    let loopSlot := if counted then ns.names.idxOf? "loop" else none
    let target := target.resolve inside.env
    return [.loop (← addLoop
      { scope, target, source, test, loopSlot, recursive, body, otherwiseScope, otherwise })]
  | .assign target e => do
    return [.assign (target.resolve site.env) (← site.expr e)]
  | .capture target filter body => do
    let ns := Names.ofBody site.env {} body
    let inside := site.inner ns
    let scope ← site.close ns
    let body ← linkBody inside body
    let target := target.resolve site.env
    match filter with
    | none => return [.capture scope body none target]
    | some f =>
      let slot := scope.length
      let f ← inside.exprOn ⟨0, slot, ""⟩ f
      return [.capture (scope ++ [.given]) body (some (slot, f)) target]
  | .withVars bindings body => do
    let ns := bindings.foldl (fun ns (t, _) => ns.giveTarget t) ({} : Names)
    let ns := Names.ofBody site.env ns body
    let inside := site.inner ns
    let scope ← site.close ns
    let bindings ← bindings.mapM fun (t, e) => do
      return (t.resolve inside.env, ← site.expr e)
    return [.withVars scope bindings (← linkBody inside body)]
  | .define name params defaults body line => do
    let index ← linkSnippet site (some name) params defaults body line fun s => linkBody s body
    return [.define (site.env.place name) index]
  | .callBlock params defaults call body line => do
    let index ← linkSnippet site none params defaults body line fun s => linkBody s body
    return [.callBlock index (← site.expr call)]
  | .clause kind body line => do
    let index ← linkSnippet site none [] [] body line fun s => linkBody s body
    return [.clause kind index]
  | .filterBlock filter body => do
    let ns := (Names.ofBody site.env {} body).readAll site.env filter
    let inside := site.inner ns
    let scope ← site.close ns
    let body ← linkBody inside body
    let slot := scope.length
    let filter ← inside.exprOn ⟨0, slot, ""⟩ filter
    return [.filterBlock (scope ++ [.given]) body slot filter]
  | .escaping value body => do
    let ns := Names.ofBody site.env (Names.readAll site.env {} value) body
    let inside := site.inner ns
    let scope ← site.close ns
    let value ← inside.expr value
    return [.escaping scope value (← linkBody inside body)]
  | .block name seesLocals required body _ => do
    let ns : Names := if firstRead "self" body then ({} : Names).put "self" .itself else {}
    let ns := Names.ofBody [] ns body
    let scope ← site.closeBlock seesLocals ns
    let inside : Site :=
      { site with env := [ns.names], stored := ns.stored, inChoice := false }
    return [.block name required scope (← linkBody inside body)]
  | .foreign _ template _ => do
    let _ ← site.expr template
    return [.foreign]

/-- Link statements in a row. -/
def linkBody (site : Site) : List Stmt → Link (List Node)
  | [] => return []
  | s :: ss => do return (← linkStmt site s) ++ (← linkBody site ss)

/-- Link further branches of a choice. -/
def linkBranches (site : Site) : List (Expr String × List Stmt) → Link (List (Code × List Node))
  | [] => return []
  | (test, body) :: more => do
    let test ← site.expr test
    let body ← linkBody site body
    return (test, body) :: (← linkBranches site more)

end

/-- The first block that is defined a second time, with its line. -/
def repeatedBlock? (body : List Stmt) : Option (String × Nat) :=
  let blocks := (mentionsAll true body).filterMap fun m =>
    match m with
    | .block name _ line => some (name, line)
    | _ => none
  let rec find (seen : List String) : List (String × Nat) → Option (String × Nat)
    | [] => none
    | (name, line) :: rest =>
      if seen.contains name then some (name, line) else find (name :: seen) rest
  find [] blocks

/-- Link a template. -/
def link (strict : Bool) (body : List Stmt) : Except LinkError Program := do
  if let some (name, line) := repeatedBlock? body then
    throw (.fault ⟨"block " ++ Text.quoted name ++ " defined twice", line⟩)
  let ns : Names := if firstRead "self" body then ({} : Names).put "self" .itself else {}
  let ns := Names.ofBody [] ns body
  let site : Site :=
    { env := [ns.names], stored := ns.stored, root := ns, inChoice := false, strict }
  let whole : Link (Scope × List Node) := do
    let scope ← { site with env := [] }.close ns
    return (scope, ← linkBody site body)
  let ((scope, nodes), g) ← whole.run {}
  return { externals := g.externals, scope, body := nodes, loops := g.loops, snippets := g.snippets }

end SqlMapper.Template
