import SqlMapper.Template.Render
import SqlMapper.Proofs.Value.Outcome
/-!
# SqlMapper.Proofs.Template.Compiling

What compiling a template goes through (`compile_eq_ok_iff`), and when rendering it gives a text
(`render_eq_ok_iff`).
-/

namespace SqlMapper.Template

variable {source preview : String} {context : List (String × Value)} {strict : Bool} {t : Template}

/-- A template compiles if its source can be read, and what is read and what is left of it can be linked. -/
theorem compile_eq_ok_iff : compile source context strict preview = .ok t ↔
    ∃ body program left, parse source = .ok body ∧ link strict body = .ok program ∧
      link strict (foldBody strict body) = .ok left ∧
      t = { source, preview, context, strict, program, parameters := left.parameters (context.map (·.1)) } := by
  simp only [compile, treeOf, Program.ofTree, mapError_eq_ok_iff, bind_eq_ok_iff, pure, Except.pure,
    Except.ok.injEq]
  constructor
  · rintro ⟨body, hparse, program, hlink, left, hleft, rfl⟩
    exact ⟨body, program, left, hparse, hlink, hleft, rfl⟩
  · rintro ⟨body, program, left, hparse, hlink, hleft, rfl⟩
    exact ⟨body, hparse, program, hlink, left, hleft, rfl⟩

/-- A template in which nothing is constant compiles to its program. -/
theorem compile_of_foldBody_eq {body : List Stmt} {program : Program} (hparse : parse source = .ok body)
    (hlink : link strict body = .ok program) (hfold : foldBody strict body = body) :
    compile source context strict preview =
      .ok { source, preview, context, strict, program, parameters := program.parameters (context.map (·.1)) } :=
  compile_eq_ok_iff.mpr ⟨body, program, program, hparse, hlink, by rw [hfold, hlink], rfl⟩

/-- A rendering gives a text if the run does. -/
theorem render_eq_ok_iff {params : Params} {text : String} :
    t.render params = .ok text ↔
      Context.run ⟨t.program, t.program.externals.map (t.lookup params), t.strict⟩ renderFuel = .ok text := by
  unfold render
  dsimp only
  split
  case h_1 text' hrun => simp [hrun]
  case h_2 stop hrun => simp [hrun]

end SqlMapper.Template
