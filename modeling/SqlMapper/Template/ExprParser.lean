import SqlMapper.Template.Reader
/-!
# SqlMapper.Template.ExprParser

Reading expressions. The operators bind, from loose to tight: inline `if`, `or`, `and`, `not`,
comparisons, `+` and `-`, `~`, the multiplying ones, `**`, signs, and at last attributes, items and
calls, after which filters and tests may follow. All operators with two operands group to the left.

Each rule is a function of the rules it falls back on after having passed a token (`Rules`), so the
nesting is bounded by the number of tokens (`Rules.ofDepth`).
-/

namespace SqlMapper.Template

open Reader

/-- An expression as written. -/
abbrev Written := Expr String

/-- The rules for what is nested inside an expression. -/
structure Rules where
  /-- An expression; the flag allows an inline `if`. -/
  expr : Bool → Reader Written
  /-- An operand of `not`. -/
  negated : Reader Written
  /-- An operand of a sign; the flag allows filters and tests. -/
  unary : Bool → Reader Written

/-- Operands joined by operators, grouped to the left. -/
def leftGrouped (operand : Reader Written) (op? : TokenKind → Option (Written → Written → Written)) :
    Nat → Written → Reader Written
  | 0, _ => tooDeep
  | n + 1, left => do
    match op? (← kind) with
    | none => return left
    | some join =>
      let _ ← advance
      let right ← operand
      leftGrouped operand op? n (join left right)

/-- Elements between brackets, with commas between them and possibly after the last; the closing
bracket is passed too. -/
def elements {α : Type} (closer : Symbol) (element : Reader α) :
    Nat → List α → Reader (List α)
  | 0, _ => tooDeep
  | n + 1, done => do
    if (← kind).isSymbol closer then
      expectSymbol closer
      return done.reverse
    if !done.isEmpty then
      expectSymbol .comma
      if (← kind).isSymbol closer then
        expectSymbol closer
        return done.reverse
    elements closer element n ((← element) :: done)

/-- Arguments up to the closing parenthesis. After a named one no positional one may follow, and
after the spread ones none of a kind that would come before. -/
def argumentsFrom (rules : Rules) (line : Nat) :
    Nat → List (Passing × Written) → Reader (List (Passing × Written))
  | 0, _ => tooDeep
  | n + 1, done => do
    if (← kind).isSymbol .rparen then
      expectSymbol .rparen
      return done.reverse
    if !done.isEmpty then
      expectSymbol .comma
      if (← kind).isSymbol .rparen then
        expectSymbol .rparen
        return done.reverse
    let has (p : Passing → Bool) : Bool := done.any fun a => p a.1
    let spread := has (· == .spread)
    let spreadNamed := has (· == .spreadNamed)
    let named := has fun | .named _ => true | _ => false
    let ensure (b : Bool) : Reader Unit :=
      if b then pure () else failAt "invalid syntax for function call expression" line
    match ← kind with
    | .symbol .mul =>
      ensure (!spread && !spreadNamed)
      let _ ← advance
      argumentsFrom rules line n ((.spread, ← rules.expr true) :: done)
    | .symbol .pow =>
      ensure (!spreadNamed)
      let _ ← advance
      argumentsFrom rules line n ((.spreadNamed, ← rules.expr true) :: done)
    | k =>
      let key? ← match k with
        | .name key => do if (← look).isSymbol .assign then pure (some key) else pure none
        | _ => pure none
      match key? with
      | some key =>
        ensure (!spreadNamed)
        let _ ← advance
        let _ ← advance
        argumentsFrom rules line n ((.named key, ← rules.expr true) :: done)
      | none =>
        ensure (!spread && !spreadNamed && !named)
        argumentsFrom rules line n ((.positional, ← rules.expr true) :: done)

/-- Arguments in parentheses. -/
def arguments (rules : Rules) : Reader (List (Passing × Written)) := do
  let t ← current
  expectSymbol .lparen
  argumentsFrom rules t.line (← bound) []

/-- An optional part of a slice. -/
def slicePart (rules : Rules) : Reader (Option Written) := do
  match ← kind with
  | .symbol .colon | .symbol .rbracket | .symbol .comma => return none
  | _ => return some (← rules.expr true)

/-- A key or a slice between square brackets. -/
def keyOrSlice (rules : Rules) : Reader Written := do
  let start ← if (← kind).isSymbol .colon then pure none else some <$> rules.expr true
  match start, (← kind).isSymbol .colon with
  | some e, false => return e
  | start, _ =>
    expectSymbol .colon
    let stop ← slicePart rules
    if ← skipIf (·.isSymbol .colon) then
      match ← kind with
      | .symbol .rbracket | .symbol .comma => return .slice start stop none
      | _ => return .slice start stop (some (← rules.expr true))
    else return .slice start stop none

/-- Keys between square brackets, the closing one not passed. Unlike elsewhere, no comma may stand
after the last. -/
def keysFrom (rules : Rules) : Nat → List Written → Reader (List Written)
  | 0, _ => tooDeep
  | n + 1, done => do
    if (← kind).isSymbol .rbracket then return done.reverse
    if !done.isEmpty then expectSymbol .comma
    keysFrom rules n ((← keyOrSlice rules) :: done)

/-- An attribute or an item of a value. -/
def subscript (rules : Rules) (e : Written) : Reader Written := do
  let t ← advance
  if t.kind.isSymbol .dot then
    let key ← current
    let _ ← advance
    match key.kind with
    | .name name => return .attribute e name
    | .integer n => return .item e (.lit (.int n))
    | _ => failAt "expected name or number" key.line
  else
    let keys ← keysFrom rules (← bound) []
    expectSymbol .rbracket
    match keys with
    | [key] => return .item e key
    | keys => return .item e (.tuple keys)

/-- Attributes, items and calls behind a value. -/
def postfixes (rules : Rules) : Nat → Written → Reader Written
  | 0, _ => tooDeep
  | n + 1, e => do
    match ← kind with
    | .symbol .dot | .symbol .lbracket => postfixes rules n (← subscript rules e)
    | .symbol .lparen => postfixes rules n (.call e (← arguments rules))
    | _ => return e

/-- A name with dots in it. -/
def dottedName : Reader (String × Nat) := do
  let (name, line) ← expectName
  return (← more (← bound) name, line)
where
  /-- The parts after the first. -/
  more : Nat → String → Reader String
  | 0, _ => tooDeep
  | n + 1, name => do
    if ← skipIf (·.isSymbol .dot) then
      let (part, _) ← expectName
      more n (name ++ "." ++ part)
    else return name

/-- The words that are constants. -/
def constantWord? : String → Option Literal
  | "true" | "True" => some (.bool true)
  | "false" | "False" => some (.bool false)
  | "none" | "None" => some .null
  | _ => none

/-- String literals that stand one after the other are one. -/
def adjacentStrings : Nat → String → Reader String
  | 0, _ => tooDeep
  | n + 1, s => do
    match ← kind with
    | .string t =>
      let _ ← advance
      adjacentStrings n (s ++ t)
    | _ => return s

/-- Does a tuple end here? -/
def tupleEnds : Reader Bool := do
  match ← kind with
  | .printEnd | .blockEnd | .symbol .rparen => return true
  | _ => return false

/-- Elements with commas between them, up to the end of a tuple; the answer tells whether there was
a comma. -/
def tupleElements {α : Type} (element : Reader α) : Nat → List α → Bool → Reader (List α × Bool)
  | 0, _, _ => tooDeep
  | n + 1, done, comma => do
    if !done.isEmpty then expectSymbol .comma
    if ← tupleEnds then return (done.reverse, comma)
    let done := (← element) :: done
    if (← kind).isSymbol .comma then tupleElements element n done true
    else return (done.reverse, comma)

/-- One expression, or several with commas as a tuple. Only in parentheses may it be empty. -/
def tupleOf (element : Reader Written) (parenthesised : Bool) : Reader Written := do
  let (es, comma) ← tupleElements element (← bound) [] false
  match es, comma with
  | [e], false => return e
  | es, _ =>
    if es.isEmpty && !parenthesised then
      failHere ("Expected an expression, got " ++ Text.quoted (← kind).describe)
    return .tuple es

/-- An entry of a mapping. -/
def entry (rules : Rules) : Reader (Written × Written) := do
  let key ← rules.expr true
  expectSymbol .colon
  return (key, ← rules.expr true)

/-- A name, a literal, or something in brackets. -/
def primary (rules : Rules) : Reader Written := do
  let t ← current
  match t.kind with
  | .name s =>
    let _ ← advance
    match constantWord? s with
    | some l => return .lit l
    | none => return .var s
  | .string s =>
    let _ ← advance
    return .lit (.str (← adjacentStrings (← bound) s))
  | .integer n =>
    let _ ← advance
    return .lit (.int n)
  | .float x =>
    let _ ← advance
    return .lit (.float x)
  | .symbol .lparen =>
    let _ ← advance
    let e ← tupleOf (rules.expr true) true
    expectSymbol .rparen
    return e
  | .symbol .lbracket =>
    let _ ← advance
    return .list (← elements .rbracket (rules.expr true) (← bound) [])
  | .symbol .lbrace =>
    let _ ← advance
    return .dict (← elements .rbrace (entry rules) (← bound) [])
  | k => failAt ("unexpected " ++ Text.quoted k.describe) t.line

/-- The name and the arguments of a filter, after its bar. -/
def filterCall (rules : Rules) (e : Option Written) : Reader Written := do
  let (name, line) ← dottedName
  let args ← if (← kind).isSymbol .lparen then arguments rules else pure []
  return .filter name e args line

/-- Is a token the beginning of a test's argument without parentheses? -/
def startsArgument : TokenKind → Bool
  | .name s => s != "else" && s != "or" && s != "and"
  | .string _ | .integer _ | .float _ => true
  | .symbol .lbracket | .symbol .lbrace => true
  | _ => false

/-- A test, after its `is`. -/
def testCall (rules : Rules) (e : Written) (line : Nat) : Reader Written := do
  let negated ← skipIf (·.isName "not")
  let (name, _) ← dottedName
  let args ←
    if (← kind).isSymbol .lparen then arguments rules
    else if startsArgument (← kind) then do
      if (← kind).isName "is" then failHere "You cannot chain multiple tests with is"
      let e ← postfixes rules (← bound) (← primary rules)
      pure [(Passing.positional, e)]
    else pure []
  let t : Written := .test name e args line
  return if negated then .unary .not t else t

/-- Filters, tests and calls behind a value. -/
def filtersAndTests (rules : Rules) : Nat → Written → Reader Written
  | 0, _ => tooDeep
  | n + 1, e => do
    match ← kind with
    | .symbol .pipe =>
      let _ ← advance
      filtersAndTests rules n (← filterCall rules (some e))
    | .name "is" =>
      let t ← advance
      filtersAndTests rules n (← testCall rules e t.line)
    | .symbol .lparen => filtersAndTests rules n (.call e (← arguments rules))
    | _ => return e

/-- An operand with its sign; the flag allows filters and tests. -/
def signed (rules : Rules) (filters : Bool) : Reader Written := do
  let e ← match ← kind with
    | .symbol .sub => do
      let _ ← advance
      pure (.unary .negate (← rules.unary false))
    | .symbol .add => do
      let _ ← advance
      pure (.unary .plus (← rules.unary false))
    | _ => primary rules
  let e ← postfixes rules (← bound) e
  if filters then filtersAndTests rules (← bound) e else return e

/-- Powers. -/
def power (rules : Rules) : Reader Written := do
  let op? : TokenKind → Option (Written → Written → Written)
    | .symbol .pow => some (.arith .pow)
    | _ => none
  leftGrouped (signed rules true) op? (← bound) (← signed rules true)

/-- Products, quotients and remainders. -/
def product (rules : Rules) : Reader Written := do
  let op? : TokenKind → Option (Written → Written → Written)
    | .symbol .mul => some (.arith .mul)
    | .symbol .div => some (.arith .div)
    | .symbol .floorDiv => some (.arith .floorDiv)
    | .symbol .mod => some (.arith .mod)
    | _ => none
  leftGrouped (power rules) op? (← bound) (← power rules)

/-- The operands of `~` after the first. -/
def joinedMore (rules : Rules) : Nat → List Written → Reader (List Written)
  | 0, _ => tooDeep
  | n + 1, done => do
    if ← skipIf (·.isSymbol .tilde) then joinedMore rules n ((← product rules) :: done)
    else return done.reverse

/-- Texts joined by `~`. -/
def joined (rules : Rules) : Reader Written := do
  let first ← product rules
  match ← joinedMore rules (← bound) [first] with
  | [e] => return e
  | es => return .concat es

/-- Sums and differences. -/
def sum (rules : Rules) : Reader Written := do
  let op? : TokenKind → Option (Written → Written → Written)
    | .symbol .add => some (.arith .add)
    | .symbol .sub => some (.arith .sub)
    | _ => none
  leftGrouped (joined rules) op? (← bound) (← joined rules)

/-- The comparison that a symbol means. -/
def comparison? : Symbol → Option CompareOp
  | .eq => some .eq
  | .ne => some .ne
  | .lt => some (.order .lt)
  | .le => some (.order .le)
  | .gt => some (.order .gt)
  | .ge => some (.order .ge)
  | _ => none

/-- Pass a comparison, if one stands here. -/
def compareOp? : Reader (Option CompareOp) := do
  match ← kind with
  | .symbol s =>
    match comparison? s with
    | some op =>
      let _ ← advance
      return some op
    | none => return none
  | .name "in" =>
    let _ ← advance
    return some .isIn
  | .name "not" =>
    if (← look).isName "in" then
      let _ ← advance
      let _ ← advance
      return some .notIn
    else return none
  | _ => return none

/-- The comparisons of a chain. -/
def comparisons (rules : Rules) :
    Nat → List (CompareOp × Written) → Reader (List (CompareOp × Written))
  | 0, _ => tooDeep
  | n + 1, done => do
    match ← compareOp? with
    | some op => comparisons rules n ((op, ← sum rules) :: done)
    | none => return done.reverse

/-- A chain of comparisons. -/
def compared (rules : Rules) : Reader Written := do
  let e ← sum rules
  match ← comparisons rules (← bound) [] with
  | [] => return e
  | ops => return .compare e ops

/-- An operand of `and`. -/
def negation (rules : Rules) : Reader Written := do
  if ← skipIf (·.isName "not") then return .unary .not (← rules.negated)
  else compared rules

/-- An operand of `or`. -/
def conjunction (rules : Rules) : Reader Written := do
  let op? : TokenKind → Option (Written → Written → Written)
    | .name "and" => some .and
    | _ => none
  leftGrouped (negation rules) op? (← bound) (← negation rules)

/-- An expression without an inline `if`. -/
def disjunction (rules : Rules) : Reader Written := do
  let op? : TokenKind → Option (Written → Written → Written)
    | .name "or" => some .or
    | _ => none
  leftGrouped (conjunction rules) op? (← bound) (← conjunction rules)

/-- Inline `if`s behind an expression. -/
def choices (rules : Rules) : Nat → Written → Nat → Reader Written
  | 0, _, _ => tooDeep
  | n + 1, e, line => do
    if ← skipIf (·.isName "if") then
      let test ← disjunction rules
      let no ← if ← skipIf (·.isName "else") then some <$> rules.expr true else pure none
      let next := (← current).line
      choices rules n (.choice test e no line) next
    else return e

/-- An expression; the flag allows an inline `if`. -/
def expression (rules : Rules) (withChoice : Bool) : Reader Written := do
  let line := (← current).line
  let e ← disjunction rules
  if withChoice then choices rules (← bound) e line else return e

/-- The rules for expressions nested up to a depth. -/
def Rules.ofDepth : Nat → Rules
  | 0 => { expr := fun _ => tooDeep, negated := tooDeep, unary := fun _ => tooDeep }
  | n + 1 =>
    let rules := Rules.ofDepth n
    { expr := expression rules, negated := negation rules, unary := signed rules }

end SqlMapper.Template
