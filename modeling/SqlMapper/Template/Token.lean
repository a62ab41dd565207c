import SqlMapper.Number.Numeral
import SqlMapper.Text.Identifier
import SqlMapper.Text.Quoted
/-!
# SqlMapper.Template.Token

The tokens of a template: plain text, the marks that begin and end a tag, and inside tags names,
literals and operators. Every token knows its line.

A token may also be a fault: then the text from there on cannot be read. A fault is a token and not
an error of the reader because it counts only once the parser gets there.
-/

namespace SqlMapper.Template

/-- Operators and brackets. -/
inductive Symbol
  | add
  | sub
  | mul
  | div
  | floorDiv
  | mod
  | pow
  | tilde
  | lbracket
  | rbracket
  | lparen
  | rparen
  | lbrace
  | rbrace
  | eq
  | ne
  | gt
  | ge
  | lt
  | le
  | assign
  | dot
  | colon
  | pipe
  | comma
  | semicolon
  deriving Repr, DecidableEq

namespace Symbol

/-- How a symbol is written. -/
def text : Symbol → String
  | add => "+"
  | sub => "-"
  | mul => "*"
  | div => "/"
  | floorDiv => "//"
  | mod => "%"
  | pow => "**"
  | tilde => "~"
  | lbracket => "["
  | rbracket => "]"
  | lparen => "("
  | rparen => ")"
  | lbrace => "\x7b"
  | rbrace => "\x7d"
  | eq => "=="
  | ne => "!="
  | gt => ">"
  | ge => ">="
  | lt => "<"
  | le => "<="
  | assign => "="
  | dot => "."
  | colon => ":"
  | pipe => "|"
  | comma => ","
  | semicolon => ";"

/-- All symbols, the longer ones first. -/
def all : List Symbol :=
  [floorDiv, pow, eq, ne, ge, le, add, sub, div, mul, mod, tilde, lbracket, rbracket, lparen,
    rparen, lbrace, rbrace, gt, lt, assign, dot, colon, pipe, comma, semicolon]

/-- The bracket that closes an opening one. -/
def closing? : Symbol → Option Symbol
  | lparen => some rparen
  | lbracket => some rbracket
  | lbrace => some rbrace
  | _ => none

/-- Does a symbol close a bracket? -/
def isClosing (s : Symbol) : Bool := s == rparen || s == rbracket || s == rbrace

end Symbol

/-- What a token is. -/
inductive TokenKind
  /-- Text outside tags. -/
  | data (s : String)
  | printBegin
  | printEnd
  | blockBegin
  | blockEnd
  | name (s : String)
  | string (s : String)
  | integer (n : Int)
  | float (x : Float)
  | symbol (s : Symbol)
  /-- The end of the template. -/
  | eof
  /-- Nothing can be read from here on, for the reason given. -/
  | fault (reason : String)
  deriving Repr, Inhabited

/-- A token and the line where it begins. -/
structure Token where
  kind : TokenKind
  line : Nat
  deriving Repr, Inhabited

namespace TokenKind

/-- What a kind of token is called in messages. -/
def title : TokenKind → String
  | data _ => "template data / text"
  | printBegin => "begin of print statement"
  | printEnd => "end of print statement"
  | blockBegin => "begin of statement block"
  | blockEnd => "end of statement block"
  | name _ => "name"
  | string _ => "string"
  | integer _ => "integer"
  | float _ => "float"
  | symbol s => s.text
  | eof => "end of template"
  | fault _ => "fault"

/-- What a token is called in messages: a name stands for itself. -/
def describe : TokenKind → String
  | name s => s
  | k => k.title

/-- Is the token this symbol? -/
def isSymbol (s : Symbol) : TokenKind → Bool
  | symbol t => s == t
  | _ => false

/-- Is the token this name? -/
def isName (n : String) : TokenKind → Bool
  | name m => n == m
  | _ => false

end TokenKind

/-! ### Literals -/

open SqlMapper.Text in
/-- A text as it stands between quotes: escapes are resolved. Characters outside ASCII take part in
no escape; after a backslash they are spelled out. The fuel is the length of the text. -/
def unescapeFrom : Nat → List Char → Except String (List Char)
  | 0, _ => .ok []
  | _, [] => .ok []
  | fuel + 1, '\\' :: c :: cs =>
    let simple (d : Char) : Except String (List Char) := do return d :: (← unescapeFrom fuel cs)
    let hex (width : Nat) (title : String) : Except String (List Char) :=
      let ds := (cs.take width).map fun d =>
        if d.isDigit then some (d.toNat - 48)
        else if 'a' ≤ d && d ≤ 'f' then some (d.toNat - 87)
        else if 'A' ≤ d && d ≤ 'F' then some (d.toNat - 55)
        else none
      if ds.length < width || ds.any (·.isNone) then .error ("truncated \\" ++ title ++ " escape")
      else
        let n := Number.valueOfDigits 16 (ds.map (·.getD 0))
        if 0x10ffff < n then .error "illegal Unicode character"
        else do return Char.ofNat n :: (← unescapeFrom fuel (cs.drop width))
    match c with
    | '\n' => unescapeFrom fuel cs
    | '\\' => simple '\\'
    | '\'' => simple '\''
    | '"' => simple '"'
    | 'a' => simple (Char.ofNat 7)
    | 'b' => simple (Char.ofNat 8)
    | 'f' => simple (Char.ofNat 12)
    | 'n' => simple '\n'
    | 'r' => simple '\r'
    | 't' => simple '\t'
    | 'v' => simple (Char.ofNat 11)
    | 'x' => hex 2 "xXX"
    | 'u' => hex 4 "uXXXX"
    | 'U' => hex 8 "UXXXXXXXX"
    | 'N' =>
      if cs.head? == some (Char.ofNat 0x7b) && cs.contains (Char.ofNat 0x7d) then
        .error "unknown Unicode character name"
      else .error "malformed \\N character escape"
    | c =>
      if '0' ≤ c && c ≤ '7' then
        let more := (cs.take 2).takeWhile fun d => '0' ≤ d && d ≤ '7'
        let n := Number.valueOfDigits 8 ((c :: more).map fun d => d.toNat - 48)
        do return Char.ofNat n :: (← unescapeFrom fuel (cs.drop more.length))
      else if c.val < 128 then do return '\\' :: c :: (← unescapeFrom fuel cs)
      else do return escapeCode c.toNat ++ (← unescapeFrom fuel cs)
  | fuel + 1, c :: cs => do return c :: (← unescapeFrom fuel cs)

/-- The text of a string literal without its quotes. -/
def unescape (cs : List Char) : Except String String :=
  String.ofList <$> unescapeFrom (cs.length + 1) cs

/-- Groups of digits with single underscores between them: the characters taken and the rest. -/
def takeDigitGroups : List Char → List Char × List Char
  | [] => ([], [])
  | c :: cs =>
    if Text.isDigit c then
      let (ds, rest) := takeDigitGroups cs
      (c :: ds, rest)
    else match c, cs with
      | '_', d :: _ =>
        if Text.isDigit d then
          let (ds, rest) := takeDigitGroups cs
          (c :: ds, rest)
        else ([], c :: cs)
      | _, _ => ([], c :: cs)

/-- Digit groups that begin with a digit. -/
def digitGroups? (cs : List Char) : Option (List Char × List Char) :=
  if cs.head?.any Text.isDigit then some (takeDigitGroups cs) else none

/-- An exponent: the letter, a sign, and digits. -/
def exponentPart? (cs : List Char) : Option (List Char × List Char) := do
  match cs with
  | e :: rest =>
    if e != 'e' && e != 'E' then none
    let (sign, rest) := match rest with
      | '+' :: r => (['+'], r)
      | '-' :: r => (['-'], r)
      | r => ([], r)
    let (ds, rest) ← digitGroups? rest
    some (e :: sign ++ ds, rest)
  | [] => none

/-- A decimal with a fraction, an exponent or both: its characters and the rest. -/
def floatLiteral? (cs : List Char) : Option (List Char × List Char) := do
  let (whole, rest) ← digitGroups? cs
  let fraction? : Option (List Char × List Char) := match rest with
    | '.' :: r => (digitGroups? r).map fun (ds, r) => ('.' :: ds, r)
    | _ => none
  match fraction? with
  | some (fraction, rest) =>
    match exponentPart? rest with
    | some (e, rest) => some (whole ++ fraction ++ e, rest)
    | none => some (whole ++ fraction, rest)
  | none =>
    let (e, rest) ← exponentPart? rest
    some (whole ++ e, rest)

/-- Digits of a base, each after an optional underscore: their values and the rest. -/
def takeBased (digit? : Char → Option Nat) : List Char → List Nat × List Char
  | [] => ([], [])
  | c :: cs =>
    match digit? c with
    | some d =>
      let (ds, rest) := takeBased digit? cs
      (d :: ds, rest)
    | none =>
      match c, cs with
      | '_', d :: _ =>
        if (digit? d).isSome then takeBased digit? cs else ([], c :: cs)
      | _, _ => ([], c :: cs)

/-- The value of a digit of a base up to sixteen. -/
def basedDigit (base : Nat) (c : Char) : Option Nat :=
  let d? :=
    if c.isDigit then some (c.toNat - 48)
    else if 'a' ≤ c.toLower && c.toLower ≤ 'f' then some (c.toLower.toNat - 87)
    else none
  d?.filter (· < base)

/-- An integer literal: its value and the rest. -/
def integerLiteral? (cs : List Char) : Option (Nat × List Char) :=
  let decimal (digit? : Char → Option Nat) (cs : List Char) : Nat × List Char :=
    let (ds, rest) := takeBased digit? cs
    (Number.valueOfDigits 10 ds, rest)
  let based (base : Nat) (rest : List Char) : Option (Nat × List Char) :=
    let (ds, rest) := takeBased (basedDigit base) rest
    if ds.isEmpty then none else some (Number.valueOfDigits base ds, rest)
  let zero : Option (Nat × List Char) := some (decimal (basedDigit 1) cs)
  match cs with
  | '0' :: c :: rest =>
    match c.toLower with
    | 'b' => (based 2 rest).or zero
    | 'o' => (based 8 rest).or zero
    | 'x' => (based 16 rest).or zero
    | _ => zero
  | '0' :: [] => zero
  | c :: _ => if c.isDigit then some (decimal Text.digitValue? cs) else none
  | [] => none

/-- The rest of a string literal after its opening quote: its inside and what follows it. -/
def takeString? (quote : Char) : List Char → Option (List Char × List Char)
  | [] => none
  | [c] => if c = quote then some ([], []) else none
  | c :: d :: cs =>
    if c = quote then some ([], d :: cs)
    else if c = '\\' then
      (takeString? quote cs).map fun (s, r) => (c :: d :: s, r)
    else (takeString? quote (d :: cs)).map fun (s, r) => (c :: s, r)

/-- May a character stand in a run that is read as a name? -/
def isNameRun (c : Char) : Bool := Text.isWord c || Text.isNameInside c

end SqlMapper.Template
