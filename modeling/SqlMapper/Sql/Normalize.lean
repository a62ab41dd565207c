import SqlMapper.Sql.Token
/-!
# SqlMapper.Sql.Normalize

The one-line form in which a statement is executed and logged. Line comments are dropped, since with
their line feed gone they would swallow the rest of the statement; runs of blanks and line comments
shrink to one space, and to nothing next to a parenthesis; literals and block comments stay as they
are, byte for byte.
-/

namespace SqlMapper.Sql

/-- Is a token an opening parenthesis? -/
def Token.isOpen (t : Token) : Bool := t == .char '('

/-- Is a token a parenthesis of either kind? -/
def Token.isParenthesis (t : Token) : Bool := t == .char '(' || t == .char ')'

/-- Lay tokens out on one line. `previous` is the last token written, and `separated` tells whether
blanks or line comments stood since then. -/
def layOut (previous : Option Token) (separated : Bool) : List Token → List Char
  | [] => []
  | t :: ts =>
    if t.isSeparator then layOut previous true ts
    else
      let space := separated && previous.any (!·.isOpen) && !t.isParenthesis
      (if space then ' ' :: t.text else t.text) ++ layOut (some t) false ts

/-- The one-line form of a text. -/
def normalizeChars (cs : List Char) : List Char := layOut none false (lex cs)

/-- The one-line form of a statement. -/
def normalize (sql : String) : String := String.ofList (normalizeChars sql.toList)

@[simp] theorem normalizeChars_nil : normalizeChars [] = [] := by simp [normalizeChars, layOut]

end SqlMapper.Sql
