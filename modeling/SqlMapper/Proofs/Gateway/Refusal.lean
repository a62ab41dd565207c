import Mathlib
import SqlMapper.Proofs.Gateway.Step
/-!
# SqlMapper.Proofs.Gateway.Refusal

A call that is refused has sent nothing (`refused_step_quiet`): every check that the library makes for itself
comes before the first statement of the call. For a page that takes an argument, since two statements are sent
and the kind is checked before each: the second check is the first one again, so it passes.
-/

namespace SqlMapper

variable {e : Engine} {sql : String} {params : Template.Params} {type : TypeName}
  {cls : Option EntityClass} {s s' : Session} {p : Paging} {o : PageOutcome} {err : Error}

/-! ### What an engine refuses -/

theorem Session.counted_not_refused (h : s.counted = .error err) : err.isRefused = false := by
  rcases bind_eq_error_iff.mp h with h | ⟨rows, -, h⟩
  · exact Response.not_refused h
  · exact countOf_not_refused h

/-- A page that is refused is left as it came, and so is the session. -/
theorem Engine.Paginates.of_refused (h : Paginates e sql p params s o s') (he : o.error = some err)
    (refused : err.isRefused = true) : o.page = p ∧ s' = s := by
  cases h with
  | refused => exact ⟨rfl, rfl⟩
  | uncounted supported counted =>
      cases he
      simp [Session.counted_not_refused counted] at refused
  | unread supported counted positive failed =>
      cases he
      simp [Response.not_refused failed] at refused
  | empty | read => cases he

theorem Engine.execute_of_refused (h : ((e.execute sql type params cls).run.run s).1 = .error err)
    (refused : err.isRefused = true) : ((e.execute sql type params cls).run.run s).2 = s := by
  cases htype : type.resolve e.types.contains with
  | error err' => rw [execute_of_error htype]
  | ok t =>
      rw [execute_of_ok htype] at h
      simp [Response.not_refused h] at refused

theorem Engine.query_of_refused (h : ((query sql type params cls).run.run s).1 = .error err)
    (refused : err.isRefused = true) : ((query sql type params cls).run.run s).2 = s := by
  cases htype : type.resolve (fun _ => true) with
  | error err' => rw [query_of_error htype]
  | ok t =>
      rw [query_of_ok htype] at h
      simp [Response.not_refused h] at refused

namespace Gateway

open Mapper

variable {g : Gateway} {name : String}

/-! ### What a gateway refuses -/

theorem quiet_of_eq {g' : Gateway} (h : g' = g) : g.session.Quiet g'.session := by
  rw [h]
  exact .refl _

theorem StepOutcome.error_ofResult {r : Except Error Value} :
    (StepOutcome.ofResult r).error = some err ↔ r = .error err := by
  cases r <;> simp [StepOutcome.ofResult]

theorem StepOutcome.page_ofResult (r : Except Error Value) : (StepOutcome.ofResult r).page = none := by
  cases r <;> rfl

theorem invoke_of_refused (h : ((invoke name params cls).run.run g).1 = .error err)
    (refused : err.isRefused = true) : g.session.Quiet ((invoke name params cls).run.run g).2.session := by
  obtain ⟨g', -, hquiet, ⟨e, hfails⟩ | ⟨s, sql, -, -, hruns⟩⟩ := invoke_cases name params cls g
  · rwa [hfails]
  · rw [hruns] at h ⊢
    rwa [Engine.execute_of_refused (exceptMap_eq_error_iff.mp h) refused]

theorem execute_of_refused (h : ((execute sql type params cls).run.run g).1 = .error err)
    (refused : err.isRefused = true) : ((execute sql type params cls).run.run g).2 = g := by
  rw [execute_run] at h ⊢
  rw [Engine.execute_of_refused (exceptMap_eq_error_iff.mp h) refused]

theorem query_of_refused (h : ((query sql type params cls).run.run g).1 = .error err)
    (refused : err.isRefused = true) : ((query sql type params cls).run.run g).2 = g := by
  rw [query_run] at h ⊢
  rw [Engine.query_of_refused (exceptMap_eq_error_iff.mp h) refused]

theorem selectPage_of_refused (h : ((selectPage sql p params).run g).1.error = some err)
    (refused : err.isRefused = true) :
    ((selectPage sql p params).run g).2 = g ∧ ((selectPage sql p params).run g).1.page = p := by
  obtain ⟨hpage, hsession⟩ :=
    (g.engine.paginate_paginates sql p params g.session).of_refused h refused
  rw [selectPage_run]
  exact ⟨by rw [hsession], hpage⟩

theorem invokePage_of_refused (h : ((invokePage name p params).run g).1.error = some err)
    (refused : err.isRefused = true) :
    g.session.Quiet ((invokePage name p params).run g).2.session ∧
      ((invokePage name p params).run g).1.page = p := by
  obtain ⟨g', -, hquiet, ⟨e, hfails⟩ | ⟨sql, hruns⟩⟩ := invokePage_cases name p params g
  · rw [hfails]
    exact ⟨hquiet, rfl⟩
  · rw [hruns] at h ⊢
    obtain ⟨hsame, hpage⟩ := selectPage_of_refused h refused
    rw [hsame]
    exact ⟨hquiet, hpage⟩

/-- **A call that is refused sends nothing.** Whatever a gateway has been used for before, a call that ends with
a verdict of the library's own has sent no statement, taken no response, logged no statement as sent, and
leaves the page that it was given as it came. So does every call for a page of a statement that is
found but is no `SELECT`, since it is refused. -/
theorem refused_step_quiet :
    (∀ (step : Step) (g : Gateway) (r : Refusal), ((step.run).run g).1.error = some (.refused r) →
      g.session.Quiet ((step.run).run g).2.session ∧ ((step.run).run g).1.page = step.page) ∧
    ∀ (g : Gateway) (name : String) (p : Paging) (params : Template.Params) (s : Statement),
      ((resolve name).run.run g).1 = .ok s → s.type ≠ .select →
        (((Step.invokePage name p params).run).run g).1.error = some (.refused (.notSelect name)) := by
  constructor
  · intro step g r h
    cases step with
    | invoke name params cls =>
        exact ⟨invoke_of_refused (StepOutcome.error_ofResult.mp h) rfl, StepOutcome.page_ofResult _⟩
    | invokePage name p params =>
        obtain ⟨hquiet, hpage⟩ := invokePage_of_refused h rfl
        exact ⟨hquiet, congrArg some hpage⟩
    | selectPage sql p params =>
        obtain ⟨hsame, hpage⟩ := selectPage_of_refused h rfl
        exact ⟨quiet_of_eq hsame, congrArg some hpage⟩
    | execute sql type params cls =>
        have hsame := execute_of_refused (StepOutcome.error_ofResult.mp h) rfl
        exact ⟨quiet_of_eq hsame, StepOutcome.page_ofResult _⟩
    | query sql type params cls =>
        have hsame := query_of_refused (StepOutcome.error_ofResult.mp h) rfl
        exact ⟨quiet_of_eq hsame, StepOutcome.page_ofResult _⟩
  · intro g name p params s hs htype
    have ht : ((pageText name params).run.run g).1 = .error (.refused (.notSelect name)) := by
      rw [pageText_run]
      generalize (resolve name).run.run g = found at hs
      obtain ⟨s', g'⟩ := found
      obtain rfl : s' = .ok s := hs
      exact if_neg htype
    have hpage : ((invokePage name p params).run g).1.error = some (.refused (.notSelect name)) := by
      rw [invokePage_of_error (Prod.ext ht rfl)]
    exact hpage

/-- A gateway with one statement, which deletes. -/
def purging : Gateway := loadedGateway {} [plainStatement "purge" .raw "delete from t"] []

/-- A gateway whose engine runs no `SELECT`. -/
def rawOnly : Gateway := loadedGateway { types := [.raw] } [] []

/-- No page of a statement that deletes is read, nor one of free SQL by an engine that runs no `SELECT`. -/
theorem refused_step_quiet_of_kind :
    (((Step.invokePage "purge" {} []).run).run purging).1.error = some (.refused (.notSelect "purge")) ∧
      purging.session.Quiet (((Step.invokePage "purge" {} []).run).run purging).2.session ∧
      rawOnly.session.Quiet (((Step.selectPage "select 1" {} []).run).run rawOnly).2.session ∧
      (((Step.selectPage "select 1" {} []).run).run rawOnly).1.page = some {} := by
  obtain ⟨quiet, notSelect⟩ := refused_step_quiet
  have hs : ((resolve "purge").run.run purging).1 = .ok (plainStatement "purge" .raw "delete from t") := by cbv
  have hpage := notSelect purging "purge" {} [] _ hs (by decide)
  have hfree : (((Step.selectPage "select 1" {} []).run).run rawOnly).1.error =
      some (.refused (.unsupportedType QueryType.select.shown)) := rfl
  exact ⟨hpage, (quiet _ purging _ hpage).1, quiet _ rawOnly _ hfree⟩

end Gateway
end SqlMapper
