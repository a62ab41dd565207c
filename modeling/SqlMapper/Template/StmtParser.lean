import SqlMapper.Template.ExprParser
/-!
# SqlMapper.Template.StmtParser

Reading statements: the text between tags, print tags, and the block tags with what they enclose.
A block ends at one of the end tags it waits for; what else stands there is reported as misplaced.

As with expressions, each rule is a function of the rule for what is nested inside (`Body`), and the
nesting is bounded by the number of tokens.
-/

namespace SqlMapper.Template

open Reader

/-- The rule for nested statements: it stops at one of the end tags, which becomes the current
token. Without end tags it reads up to the end of the template. -/
abbrev Body := Option (List String) → Reader (List Stmt)

/-- The rules a statement may use. -/
structure StmtRules where
  rules : Rules
  body : Body

namespace StmtRules

/-- A block after its tag, up to one of the end tags. -/
def blockUpTo (r : StmtRules) (ends : List String) : Reader (List Stmt) := do
  let _ ← skipIf (·.isSymbol .colon)
  expectBlockEnd
  let body ← r.body (some ends)
  match (← current).kind with
  | .eof => do
    let reason ← awaiting ends (misplaced none)
    failHere reason
  | _ => return body

/-- A block after its tag, and its end tag. -/
def blockThrough (r : StmtRules) (last : String) : Reader (List Stmt) := do
  let body ← r.blockUpTo [last]
  let _ ← advance
  return body

/-- An expression. -/
def expr (r : StmtRules) : Reader Written := expression r.rules true

end StmtRules

/-! ### Targets of assignments -/

/-- A target, or something that cannot be assigned to. -/
inductive TargetCandidate
  | target (t : Target String)
  | tuple (ts : List TargetCandidate)
  | notTarget (kind : String)

mutual

/-- The target, unless some part of it cannot be assigned to. -/
def TargetCandidate.toTarget? : TargetCandidate → Option (Target String)
  | target t => some t
  | tuple ts => Target.tuple <$> TargetCandidate.toTargets? ts
  | notTarget _ => none

/-- The targets, unless one of them is none. -/
def TargetCandidate.toTargets? : List TargetCandidate → Option (List (Target String))
  | [] => some []
  | t :: ts => do
    let t ← TargetCandidate.toTarget? t
    let ts ← TargetCandidate.toTargets? ts
    return t :: ts

end

/-- What messages call something that cannot be assigned to. -/
def TargetCandidate.title : TargetCandidate → String
  | target _ => "name"
  | tuple _ => "tuple"
  | notTarget kind => kind

/-- What messages call an expression. -/
def Written.title : Written → String
  | .list _ => "list"
  | .dict _ => "dict"
  | .tuple _ => "tuple"
  | _ => "const"

/-- A part of a target: a name, a field of a record where those are allowed, or something in
brackets. The fuel bounds the nesting of parentheses. -/
def targetPart (rules : Rules) (fields : Bool) : Nat → Reader TargetCandidate
  | 0 => tooDeep
  | n + 1 => do
    let t ← current
    match t.kind with
    | .name s =>
      if (constantWord? s).isSome then
        let _ ← primary rules
        return .notTarget "const"
      let _ ← advance
      if fields && (← kind).isSymbol .dot then
        let _ ← advance
        let (field, _) ← expectName
        return .target (.field s field)
      else return .target (.var s)
    | .symbol .lparen =>
      let _ ← advance
      let (ts, comma) ← tupleElements (targetPart rules fields n) (← bound) [] false
      expectSymbol .rparen
      match ts, comma with
      | [t], false => return t
      | ts, _ => return .tuple ts
    | _ =>
      let e ← primary rules
      return .notTarget (Written.title e)

/-- A target of an assignment: one part, or several with commas. -/
def assignTarget (rules : Rules) (fields : Bool) : Reader (Target String) := do
  let line := (← current).line
  let (ts, comma) ← tupleElements (targetPart rules fields (← bound)) (← bound) [] false
  let candidate ← match ts, comma with
    | [t], false => pure t
    | [], false => failHere ("Expected an expression, got " ++ Text.quoted (← kind).describe)
    | ts, _ => pure (.tuple ts)
  match candidate.toTarget? with
  | some t => return t
  | none => failAt ("can't assign to " ++ Text.quoted candidate.title) line

/-- A name that is assigned to. -/
def assignName : Reader String := do
  let (name, line) ← expectName
  match constantWord? name with
  | some _ => failAt "can't assign to 'name'" line
  | none => return name

/-! ### Statements -/

/-- Parameters and defaults, between parentheses. -/
def parametersFrom (r : StmtRules) :
    Nat → List String → List Written → Reader (List String × List Written)
  | 0, _, _ => tooDeep
  | n + 1, params, defaults => do
    if (← kind).isSymbol .rparen then
      expectSymbol .rparen
      return (params.reverse, defaults.reverse)
    if !params.isEmpty then expectSymbol .comma
    let name ← assignName
    if ← skipIf (·.isSymbol .assign) then
      parametersFrom r n (name :: params) ((← r.expr) :: defaults)
    else
      if !defaults.isEmpty then failHere "non-default argument follows default argument"
      parametersFrom r n (name :: params) defaults

/-- Parameters in parentheses. -/
def parameterList (r : StmtRules) : Reader (List String × List Written) := do
  expectSymbol .lparen
  parametersFrom r (← bound) [] []

/-- The tag `for`. -/
def forTag (r : StmtRules) : Reader Stmt := do
  let line := (← expectWord "for").line
  let target ← assignTarget r.rules false
  let _ ← expectWord "in"
  let source ← tupleOf (expression r.rules false) false
  let test ← if ← skipIf (·.isName "if") then some <$> r.expr else pure none
  let recursive ← skipIf (·.isName "recursive")
  let body ← r.blockUpTo ["endfor", "else"]
  let otherwise ←
    if (← advance).kind.isName "endfor" then pure [] else r.blockThrough "endfor"
  return .loop target source test recursive body otherwise line

/-- The branches of an `if` after the first. -/
def branches (r : StmtRules) :
    Nat → List (Written × List Stmt) → Reader (List (Written × List Stmt) × List Stmt)
  | 0, _ => tooDeep
  | n + 1, done => do
    let test ← tupleOf (expression r.rules false) false
    let body ← r.blockUpTo ["elif", "else", "endif"]
    let t ← advance
    let done := (test, body) :: done
    if t.kind.isName "elif" then branches r n done
    else if t.kind.isName "else" then return (done.reverse, ← r.blockThrough "endif")
    else return (done.reverse, [])

/-- The tag `if`. -/
def ifTag (r : StmtRules) : Reader Stmt := do
  let _ ← expectWord "if"
  match ← branches r (← bound) [] with
  | ((test, body) :: more, otherwise) => return .choice test body more otherwise
  | ([], otherwise) => return .choice (.lit (.bool false)) [] [] otherwise

/-- The tag `set`, which assigns a value or the text of a block. -/
def setTag (r : StmtRules) : Reader Stmt := do
  let _ ← advance
  let target ← assignTarget r.rules true
  if ← skipIf (·.isSymbol .assign) then
    return .assign target (← tupleOf r.expr false)
  let filter ← filterChain (← bound) none
  return .capture target filter (← r.blockThrough "endset")
where
  /-- Filters for the text of the block. -/
  filterChain : Nat → Option Written → Reader (Option Written)
  | 0, _ => tooDeep
  | n + 1, e => do
    if ← skipIf (·.isSymbol .pipe) then filterChain n (some (← filterCall r.rules e)) else return e

/-- Bindings of the tag `with`. -/
def bindings (r : StmtRules) :
    Nat → List (Target String × Written) → Reader (List (Target String × Written))
  | 0, _ => tooDeep
  | n + 1, done => do
    match ← kind with
    | .blockEnd => return done.reverse
    | _ =>
      if !done.isEmpty then expectSymbol .comma
      let target ← assignTarget r.rules false
      expectSymbol .assign
      bindings r n ((target, ← r.expr) :: done)

/-- The tag `with`. -/
def withTag (r : StmtRules) : Reader Stmt := do
  let _ ← advance
  let bs ← bindings r (← bound) []
  return .withVars bs (← r.blockThrough "endwith")

/-- The tag `autoescape`. -/
def escapeTag (r : StmtRules) : Reader Stmt := do
  let _ ← advance
  let e ← r.expr
  return .escaping e (← r.blockThrough "endautoescape")

/-- Does a statement only write blanks? -/
def Stmt.isBlank : Stmt → Bool
  | .output pieces => pieces.all fun
    | .data s => s.toList.all Text.isBlank && !s.isEmpty
    | .print _ => false
  | _ => false

/-- The tag `block`. -/
def blockTag (r : StmtRules) : Reader Stmt := do
  let line := (← advance).line
  let (name, _) ← expectName
  let seesLocals ← skipIf (·.isName "scoped")
  let required ← skipIf (·.isName "required")
  if (← kind).isSymbol .sub then
    failHere ("Block names in Jinja have to be valid Python identifiers and may not contain " ++
      "hyphens, use an underscore instead.")
  let body ← r.blockThrough "endblock"
  if required && !body.all Stmt.isBlank then
    failHere "Required blocks can only contain comments or whitespace"
  let _ ← skipIf (·.isName name)
  return .block name seesLocals required body line

/-- Pass `with context` or `without context`. -/
def contextWords : Reader Bool := do
  match ← kind with
  | .name "with" | .name "without" =>
    if (← look).isName "context" then
      let _ ← advance
      let _ ← advance
      return true
    else return false
  | _ => return false

/-- The names that the tag `from` imports. -/
def importedNames : Nat → List String → Reader (List String)
  | 0, _ => tooDeep
  | n + 1, done => do
    if !done.isEmpty then expectSymbol .comma
    match ← kind with
    | .name _ =>
      if ← contextWords then return done.reverse
      let line := (← current).line
      let name ← assignName
      if name.startsWith "_" then
        failAt "names starting with an underline can not be imported" line
      let name ← if ← skipIf (·.isName "as") then assignName else pure name
      let done := name :: done
      if ← contextWords then return done.reverse
      if (← kind).isSymbol .comma then importedNames n done else return done.reverse
    | _ =>
      let _ ← expectName
      return done.reverse

/-- The tags that ask for another template. -/
def foreignTag (r : StmtRules) (kind : Foreign) : Reader Stmt := do
  let _ ← advance
  let template ← r.expr
  match kind with
  | .base => return .foreign kind template []
  | .text =>
    if (← Reader.kind).isName "ignore" then
      if (← look).isName "missing" then
        let _ ← advance
        let _ ← advance
    let _ ← contextWords
    return .foreign kind template []
  | .library =>
    let _ ← expectWord "as"
    let name ← assignName
    let _ ← contextWords
    return .foreign kind template [name]
  | .names =>
    let _ ← expectWord "import"
    return .foreign kind template (← importedNames (← bound) [])

/-- The tag `call`. -/
def callTag (r : StmtRules) : Reader Stmt := do
  let line := (← advance).line
  let (params, defaults) ←
    if (← kind).isSymbol .lparen then parameterList r else pure ([], [])
  let e ← r.expr
  match e with
  | .call .. => return .callBlock params defaults e (← r.blockThrough "endcall") line
  | _ => failAt "expected call" line

/-- The tag `filter`. -/
def filterTag (r : StmtRules) : Reader Stmt := do
  let _ ← advance
  let first ← filterCall r.rules none
  let chain ← more (← bound) first
  return .filterBlock chain (← r.blockThrough "endfilter")
where
  /-- Filters after the first. -/
  more : Nat → Written → Reader Written
  | 0, _ => tooDeep
  | n + 1, e => do
    if ← skipIf (·.isSymbol .pipe) then more n (← filterCall r.rules (some e)) else return e

/-- The tag that defines a piece with parameters. -/
def defineTag (r : StmtRules) : Reader Stmt := do
  let line := (← advance).line
  let name ← assignName
  let (params, defaults) ← parameterList r
  return .define name params defaults (← r.blockThrough "endmacro") line

/-- Expressions of the tag `print`. -/
def printedFrom (r : StmtRules) : Nat → List (Piece String) → Reader (List (Piece String))
  | 0, _ => tooDeep
  | n + 1, done => do
    match ← kind with
    | .blockEnd => return done.reverse
    | _ =>
      if !done.isEmpty then expectSymbol .comma
      printedFrom r n (.print (← r.expr) :: done)

/-- A block tag, after its opening mark. -/
def statement (r : StmtRules) : Reader Stmt := do
  let t ← current
  match t.kind with
  | .name tag =>
    let rule? : Option (Reader Stmt) := match tag with
      | "for" => some (forTag r)
      | "if" => some (ifTag r)
      | "block" => some (blockTag r)
      | "extends" => some (foreignTag r .base)
      | "print" => some do
          let _ ← advance
          return .output (← printedFrom r (← bound) [])
      | "macro" => some (defineTag r)
      | "include" => some (foreignTag r .text)
      | "from" => some (foreignTag r .names)
      | "import" => some (foreignTag r .library)
      | "set" => some (setTag r)
      | "with" => some (withTag r)
      | "autoescape" => some (escapeTag r)
      | "call" => some (callTag r)
      | "filter" => some (filterTag r)
      | "where" => some do
          let _ ← advance
          return .clause .conditions (← r.blockThrough "endwhere") t.line
      | "setclause" => some do
          let _ ← advance
          return .clause .assignments (← r.blockThrough "endsetclause") t.line
      | _ => none
    match rule? with
    | some rule => withinTag tag rule
    | none => failAt (← misplaced (some tag)) t.line
  | _ => failAt "tag name expected" t.line

/-- The statements from here on, with the output pieces read since the last block tag. -/
def statementsFrom (r : StmtRules) (ends : Option (List String)) :
    Nat → List (Piece String) → List Stmt → Reader (List Stmt)
  | 0, _, _ => tooDeep
  | n + 1, pieces, done => do
    let flushed := if pieces.isEmpty then done else .output pieces.reverse :: done
    match ← kind with
    | .eof => return flushed.reverse
    | .data s =>
      let _ ← advance
      statementsFrom r ends n (.data s :: pieces) done
    | .printBegin =>
      let _ ← advance
      let e ← tupleOf r.expr false
      let _ ← expect (fun k => match k with | .printEnd => true | _ => false)
        TokenKind.printEnd.title
      statementsFrom r ends n (.print e :: pieces) done
    | .blockBegin =>
      let _ ← advance
      let k ← kind
      if ends.any fun es => es.any fun e => k.isName e then return flushed.reverse
      let s ← statement r
      expectBlockEnd
      statementsFrom r ends n [] (s :: flushed)
    | k => failHere ("unexpected " ++ Text.quoted k.describe)

/-- The statements up to one of the end tags, or to the end of the template. -/
def statements (r : StmtRules) (ends : Option (List String)) : Reader (List Stmt) := do
  let read := statementsFrom r ends (← bound) [] []
  match ends with
  | none => read
  | some es => awaiting es read

/-- The rule for statements nested up to a depth. -/
def Body.ofDepth (rules : Rules) : Nat → Body
  | 0 => fun _ => tooDeep
  | n + 1 => statements { rules, body := Body.ofDepth rules n }

/-- Read a template. -/
def parse (source : String) : Except Fault (List Stmt) :=
  let ts := tokens source
  let depth := ts.length + 1
  let state : ReaderState := { tokens := ts, line := 1, tags := [], awaited := [] }
  let read : Reader (List Stmt) := do
    checkFault
    Body.ofDepth (Rules.ofDepth depth) depth none
  (·.1) <$> read.run state

end SqlMapper.Template
