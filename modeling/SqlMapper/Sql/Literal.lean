import SqlMapper.Value.Conversion
/-!
# SqlMapper.Sql.Literal

Values written as SQL. A value that a template prints becomes a literal: texts are quoted with every
quote doubled, `NULL`, `TRUE` and `FALSE` stand for themselves, and a sequence becomes a
parenthesised list, or a query without rows if it is empty. Finished SQL is never quoted again.

The named filters write a value as one kind of literal, whatever kind the value is; each of them
yields finished SQL.
-/

namespace SqlMapper.Sql

/-- A text as the inside of a literal: every quote is doubled. -/
def escapeQuotes (cs : List Char) : List Char :=
  cs.flatMap fun c => if c = '\'' then ['\'', '\''] else [c]

/-- A text as a literal. -/
def quoteChars (cs : List Char) : List Char := '\'' :: (escapeQuotes cs ++ ['\''])

/-- A text as a literal. -/
def quote (s : String) : String := String.ofList (quoteChars s.toList)

/-- Stands for an empty list: no value is in it. -/
def emptyList : String := "(SELECT 1 WHERE 1=0)"

/-- A single value as a literal. -/
def literal : Value → Result String
  | .sql s => .ok s
  | .null => .ok "NULL"
  | .bool b => .ok (if b then "TRUE" else "FALSE")
  | .int n => integerText n
  | .float x => .ok (Number.text x)
  | v => do return quote (← v.text)

/-- Values as a list of literals. -/
def literalList (xs : List Value) : Result String := do
  if xs.isEmpty then return emptyList
  return "(" ++ String.intercalate ", " (← xs.mapM literal) ++ ")"

/-- The filters that turn a value into finished SQL. -/
inductive Filter
  /-- A quoted text, whatever the value is. -/
  | string
  | integer
  | float
  | boolean
  /-- A parenthesised list. -/
  | inList
  /-- A quoted pattern that matches what begins with the value. -/
  | likeStart
  /-- The value's own text, trusted. -/
  | raw
  deriving Repr, DecidableEq

/-- The names of the filters in templates. -/
def Filter.ofName? : String → Option Filter
  | "sql_string" => some .string
  | "sql_int" => some .integer
  | "sql_float" => some .float
  | "sql_bool" => some .boolean
  | "in_list" => some .inList
  | "sql_like_start" => some .likeStart
  | "sql_raw" => some .raw
  | "safe" => some .raw
  | _ => none

/-- A number's text, or `NULL` where the value is no number. Other failures remain failures. -/
def orNull (r : Result String) : Result String :=
  match r with
  | .ok s => .ok s
  | .error e => if e.family = .type ∨ e.family = .value then .ok "NULL" else .error e

/-- An integer literal, or `NULL` if the value is missing or not numeric. -/
def integerLiteral (v : Value) : Result String := orNull (v.toInt >>= integerText)

/-- A float literal, or `NULL` if the value is missing or not numeric. -/
def floatLiteral (v : Value) : Result String := orNull (Number.text <$> v.toFloat)

/-- A list of literals; the empty list also for what is no list. -/
def inList (v : Value) : Result String :=
  match v with
  | .null | .str _ | .sql _ | .bytes _ => .ok emptyList
  | v =>
    match v.items with
    | .ok xs => literalList xs
    | .error e => if e.family = .type then .ok emptyList else .error e

/-- A pattern in which the characters of a text stand for themselves. -/
def escapePattern (cs : List Char) : List Char :=
  cs.flatMap fun c => if c = '\\' ∨ c = '%' ∨ c = '_' then ['\\', c] else [c]

/-- A quoted pattern that matches every text beginning with this one. -/
def likeStart (s : String) : String :=
  String.ofList (quoteChars (escapePattern s.toList ++ ['%']))

/-- `NULL` for null, else the text that a function gives. -/
def unlessNull (v : Value) (f : Value → Result String) : Result String :=
  match v with
  | .null => .ok "NULL"
  | v => f v

/-- The text that a filter makes of a value. -/
def Filter.apply : Filter → Value → Result String
  | string, v => unlessNull v fun v => quote <$> v.text
  | integer, v => integerLiteral v
  | float, v => floatLiteral v
  | boolean, v => unlessNull v fun v => (fun b => if b then "TRUE" else "FALSE") <$> v.truth
  | inList, v => Sql.inList v
  | likeStart, v => unlessNull v fun v => Sql.likeStart <$> v.text
  | raw, v => unlessNull v Value.text

/-- The text that a template prints for a value: a list for a sequence, else a literal. -/
def finalText (v : Value) : Result String :=
  match v with
  | .list _ | .tuple _ | .set .. => inList v
  | v => literal v

/-- What a template prints for a value, as a value: a list is finished SQL. -/
def finalize (v : Value) : Result Value :=
  match v with
  | .list _ | .tuple _ | .set .. => Value.sql <$> finalText v
  | v => Value.str <$> finalText v

@[simp] theorem finalText_str (s : String) : finalText (.str s) = .ok (quote s) := rfl

@[simp] theorem finalText_sql (s : String) : finalText (.sql s) = .ok s := rfl

@[simp] theorem finalText_null : finalText .null = .ok "NULL" := rfl

end SqlMapper.Sql
