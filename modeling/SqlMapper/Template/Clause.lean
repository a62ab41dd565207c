import SqlMapper.Sql.Count
import SqlMapper.Template.Tree
/-!
# SqlMapper.Template.Clause

The clauses whose body is put together from optional pieces. The keyword is written only if the body
leaves something once blanks are cut off: for conditions after a leading `AND` or `OR` has been
dropped, for assignments after a trailing comma has been dropped.
-/

namespace SqlMapper.Template

open SqlMapper.Text SqlMapper.Sql

namespace ClauseKind

/-- The keyword of a clause. -/
def keyword : ClauseKind → List Char
  | conditions => "WHERE".toList
  | assignments => "SET".toList

end ClauseKind

/-- A body of conditions without one leading connective and the blanks after it. -/
def dropConnective (cs : List Char) : List Char :=
  match Sql.keyword "and" cs with
  | some rest => dropBlanks rest
  | none =>
    match Sql.keyword "or" cs with
    | some rest => dropBlanks rest
    | none => cs

/-- A body of assignments without one trailing comma and the blanks around it. -/
def dropComma (cs : List Char) : List Char :=
  match (cs.reverse.dropWhile isBlank) with
  | ',' :: before => (before.dropWhile isBlank).reverse
  | _ => cs

/-- What a clause cuts off its body. -/
def ClauseKind.cut : ClauseKind → List Char → List Char
  | conditions => dropConnective
  | assignments => dropComma

/-- The text of a clause with a given body. -/
def clauseChars (kind : ClauseKind) (body : List Char) : List Char :=
  match trim (kind.cut (trim body)) with
  | [] => []
  | inner => kind.keyword ++ ' ' :: inner

/-- The text of a clause with a given body. -/
def clauseText (kind : ClauseKind) (body : String) : String :=
  String.ofList (clauseChars kind body.toList)

end SqlMapper.Template
