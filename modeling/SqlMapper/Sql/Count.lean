import SqlMapper.Text.Word
import SqlMapper.Text.Blank
/-!
# SqlMapper.Sql.Count

The two statements behind a page of results, as rewritings of the text of the full statement. The
count statement (`deriveCount`) has its select list replaced and its ordering cut off, unless a
placeholder in what follows still needs a value. The window statement (`window`) has a limit
appended, on a line of its own because the statement may end in a line comment.

Keywords are found wherever they stand as whole words, in any case.
-/

namespace SqlMapper.Sql

open SqlMapper.Text

/-- Is a character a given lower-case letter in either case? The long s is an s. -/
def isLetter (letter c : Char) : Bool := c.toLower == letter || (letter == 's' && c == 'ſ')

/-- The rest after a word in any case, if the text begins with it. -/
def dropLetters? : List Char → List Char → Option (List Char)
  | [], cs => some cs
  | _ :: _, [] => none
  | l :: ls, c :: cs => if isLetter l c then dropLetters? ls cs else none

/-- Does a word end here? -/
def endsWord (cs : List Char) : Bool := !(cs.head?.any isWord)

/-- A pattern at the front of a text: the rest after it. -/
abbrev Pattern := List Char → Option (List Char)

/-- A keyword as a whole word. -/
def keyword (letters : String) : Pattern := fun cs =>
  (dropLetters? letters.toList cs).filter endsWord

/-- The words `order by`. -/
def orderBy : Pattern := fun cs => do
  let rest ← dropLetters? "order".toList cs
  if rest.head?.any isBlank then keyword "by" (dropBlanks rest) else none

/-- The first place where a pattern matches at the beginning of a word: the text before it and the
text after it. `inWord` tells whether a word character stands before the text. -/
def splitAtFirst? (p : Pattern) (inWord : Bool) : List Char → Option (List Char × List Char)
  | [] => none
  | c :: cs =>
    let further := (splitAtFirst? p (isWord c) cs).map fun (before, after) => (c :: before, after)
    if inWord then further
    else match p (c :: cs) with
      | some rest => some ([], rest)
      | none => further

/-- May a character begin the name of a bind? -/
def isBindStart (c : Char) : Bool := c.isAlpha || c == '_'

/-- Does a text hold a placeholder: a question mark, or a colon and a name? `blocked` says that the
character before is a colon or a word character, so that a colon here belongs to something else. -/
def hasPlaceholder (blocked : Bool) : List Char → Bool
  | [] => false
  | c :: cs =>
    c == '?' || (c == ':' && !blocked && cs.head?.any isBindStart) ||
      hasPlaceholder (c == ':' || isWord c) cs

/-- What replaces everything from `select` to `from`. -/
def countSelect : List Char := "select count(1) as count from".toList

/-- A text with its first select list replaced. -/
def replaceSelectList (cs : List Char) : List Char :=
  match splitAtFirst? (keyword "select") false cs with
  | none => cs
  | some (before, list) =>
    match splitAtFirst? (keyword "from") false list with
    | none => cs
    | some (_, tail) => before ++ countSelect ++ tail

/-- A text without its ordering, unless a placeholder stands after the ordering begins. -/
def dropOrdering (cs : List Char) : List Char :=
  match splitAtFirst? orderBy false cs with
  | none => cs
  | some (before, _) =>
    if hasPlaceholder false (cs.drop before.length) then cs else before

/-- The statement that counts the rows of another. -/
def deriveCountChars (cs : List Char) : List Char := dropOrdering (replaceSelectList cs)

/-- The statement that counts the rows of another. -/
def deriveCount (sql : String) : String := String.ofList (deriveCountChars sql.toList)

/-- The statement limited to `size` rows from row `index` on. -/
def window (sql : String) (index size : Int) : String :=
  sql ++ "\nlimit " ++ toString index ++ "," ++ toString size

end SqlMapper.Sql
