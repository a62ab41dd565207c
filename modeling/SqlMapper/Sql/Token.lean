import SqlMapper.Text.Blank
/-!
# SqlMapper.Sql.Token

SQL text cut into tokens, just finely enough to tell code from what must not be touched: blanks,
line comments, quoted literals, block comments, and single characters for all the rest.

* A quoted literal begins with `'`, `"` or a backquote and ends with the same character; inside it
  that character doubled, and any character after a backslash, do not end it.
* A line comment runs from `--` up to the next line feed, which is not part of it.
* A block comment runs from `/*` to the next `*/`.
* A literal or a block comment that is not closed runs to the end of the text.

Nothing is lost: the tokens' texts put together are the text (`flatMap_text_lex`).
-/

namespace SqlMapper.Sql

open SqlMapper.Text

/-- Tokens of SQL text. -/
inductive Token
  /-- A run of blanks. -/
  | blank (cs : List Char)
  /-- From `--` to the end of the line. -/
  | lineComment (cs : List Char)
  /-- A literal or a quoted name, with its quotes. -/
  | quoted (cs : List Char)
  | blockComment (cs : List Char)
  | char (c : Char)
  deriving Repr, DecidableEq

namespace Token

/-- The text of a token. -/
def text : Token → List Char
  | blank cs => cs
  | lineComment cs => cs
  | quoted cs => cs
  | blockComment cs => cs
  | char c => [c]

/-- Does a token only separate others? -/
def isSeparator : Token → Bool
  | blank _ => true
  | lineComment _ => true
  | _ => false

end Token

/-- Is a character a quote? -/
def isQuote (c : Char) : Bool := c == '\'' || c == '"' || c.toNat == 0x60

/-- The rest of a literal after its opening quote, and what follows the literal. -/
def readQuoted (q : Char) : List Char → List Char × List Char
  | [] => ([], [])
  | [c] => ([c], [])
  | c :: d :: cs =>
    if c = q then
      if d = q then (c :: d :: (readQuoted q cs).1, (readQuoted q cs).2) else ([c], d :: cs)
    else if c = '\\' then (c :: d :: (readQuoted q cs).1, (readQuoted q cs).2)
    else (c :: (readQuoted q (d :: cs)).1, (readQuoted q (d :: cs)).2)

/-- The rest of a block comment after its opening, and what follows the comment. -/
def readComment : List Char → List Char × List Char
  | [] => ([], [])
  | '*' :: '/' :: cs => (['*', '/'], cs)
  | c :: cs => (c :: (readComment cs).1, (readComment cs).2)

theorem readQuoted_append (q : Char) (cs : List Char) :
    (readQuoted q cs).1 ++ (readQuoted q cs).2 = cs := by
  fun_induction readQuoted q cs <;> simp_all

theorem readComment_append (cs : List Char) : (readComment cs).1 ++ (readComment cs).2 = cs := by
  fun_induction readComment cs <;> simp_all

/-- The first token of a text that begins with `c`, and the rest. -/
def nextToken (c : Char) (cs : List Char) : Token × List Char :=
  if isBlank c then (.blank (c :: cs.takeWhile isBlank), cs.dropWhile isBlank)
  else if isQuote c then (.quoted (c :: (readQuoted c cs).1), (readQuoted c cs).2)
  else if c = '-' ∧ cs.head? = some '-' then
    (.lineComment (c :: cs.takeWhile (· != '\n')), cs.dropWhile (· != '\n'))
  else if c = '/' ∧ cs.head? = some '*' then
    (.blockComment (c :: '*' :: (readComment cs.tail).1), (readComment cs.tail).2)
  else (.char c, cs)

theorem text_nextToken (c : Char) (cs : List Char) :
    (nextToken c cs).1.text ++ (nextToken c cs).2 = c :: cs := by
  unfold nextToken
  split
  · simp [Token.text]
  · split
    · simp [Token.text, readQuoted_append]
    · split
      · simp [Token.text]
      · split
        · next h =>
          obtain ⟨-, h⟩ := h
          cases cs with
          | nil => simp at h
          | cons d ds =>
            simp only [List.head?_cons, Option.some.injEq] at h
            simp [Token.text, h, readComment_append]
        · simp [Token.text]

theorem text_nextToken_ne_nil (c : Char) (cs : List Char) : (nextToken c cs).1.text ≠ [] := by
  unfold nextToken
  repeat' split
  all_goals simp [Token.text]

theorem length_nextToken_le (c : Char) (cs : List Char) :
    (nextToken c cs).2.length ≤ cs.length := by
  have h := congrArg List.length (text_nextToken c cs)
  have hne := List.length_pos_iff.2 (text_nextToken_ne_nil c cs)
  simp at h
  omega

/-- The tokens of a text. -/
def lex : List Char → List Token
  | [] => []
  | c :: cs => (nextToken c cs).1 :: lex (nextToken c cs).2
termination_by cs => cs.length
decreasing_by
  have := length_nextToken_le c cs
  simp only [List.length_cons]
  omega

@[simp] theorem lex_nil : lex [] = [] := by rw [lex]

/-- The tokens of a text hold all of it. -/
theorem flatMap_text_lex (cs : List Char) : (lex cs).flatMap Token.text = cs := by
  fun_induction lex cs with
  | case1 => rfl
  | case2 c cs ih => simp [ih, text_nextToken]

end SqlMapper.Sql
