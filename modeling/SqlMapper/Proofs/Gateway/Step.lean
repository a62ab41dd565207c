import Mathlib
import SqlMapper.Proofs.Engine.Sending
import SqlMapper.Proofs.Registry.Move
/-!
# SqlMapper.Proofs.Gateway.Step

The calls that send SQL, as steps with one kind of outcome (`Gateway.Step`), and what each of them is made of.
A statement by name is first asked of the registry, which may log that the document has been loaded, or has
not, and leaves the session alone otherwise (`resolve_quiet`). Only a statement that has been found and rendered
comes to the engine (`invoke_cases`, `invokePage_cases`).
-/

namespace SqlMapper

open Mapper

/-! ### Sessions in which nothing is sent -/

/-- Does an event say that a statement is sent? -/
def Event.isExecuted : Event → Bool
  | executed .. => true
  | _ => false

/-- From one state of a session to the other nothing has been sent or answered, nor logged as sent. -/
structure Session.Quiet (s s' : Session) : Prop where
  responses : s'.responses = s.responses
  calls : s'.calls = s.calls
  events : ∃ news, s'.events = s.events ++ news ∧ ∀ e ∈ news, e.isExecuted = false

theorem Session.Quiet.refl (s : Session) : s.Quiet s := ⟨rfl, rfl, [], by simp, by simp⟩

namespace Mapper.Registry

/-- From one state of a registry to the other nothing has been logged as sent. -/
def LogsNoCall (r r' : Registry) : Prop :=
  ∃ news, r'.events = r.events ++ news ∧ ∀ e ∈ news, e.isExecuted = false

theorem endEvents_not_executed (r : Registry) : ∀ e ∈ r.endEvents, e.isExecuted = false := by
  have loader : ∀ e ∈ r.loading.events, e.isExecuted = false := by
    intro e he
    have horigin := r.loading.origin_events e he
    cases e with
    | executed => simp [Event.origin] at horigin
    | _ => rfl
  intro e he
  unfold endEvents at he
  split at he
  case _ => exact loader e he
  case _ =>
      rcases List.mem_append.mp he with he | he
      · exact loader e he
      · rw [List.mem_singleton.mp he]
        rfl

theorem Move.logsNoCall {r r' : Registry} {act : Action} (m : Move r act r') : r.LogsNoCall r' := by
  cases m with
  | finish => exact ⟨r.endEvents, rfl, r.endEvents_not_executed⟩
  | _ => exact ⟨[], (List.append_nil _).symm, by simp⟩

theorem run_logsNoCall (r : Registry) (as : List Action) : r.LogsNoCall (r.run as) := by
  refine run_keeps (P := r.LogsNoCall) ?_ ⟨[], by simp, by simp⟩ as
  rintro r' r'' act ⟨news, hnews, hquiet⟩ m
  obtain ⟨more, hmore, hquiet'⟩ := m.logsNoCall
  refine ⟨news ++ more, by rw [hmore, hnews, List.append_assoc], fun e he => ?_⟩
  rcases List.mem_append.mp he with he | he
  · exact hquiet e he
  · exact hquiet' e he

end Mapper.Registry

namespace Gateway

variable {g g' : Gateway} {name sql : String} {params : Template.Params} {p : Paging}
  {cls : Option EntityClass} {s : Statement}

/-! ### Computations with a gateway -/

theorem run_bind {α β : Type} (m : Use α) (f : α → Use β) (g : Gateway) :
    (m >>= f).run.run g =
      match m.run.run g with
      | (.ok a, g') => (f a).run.run g'
      | (.error e, g') => (.error e, g') := by
  rw [ExceptT.run_bind, StateT.run_bind]
  cases m.run.run g with
  | mk a g' => cases a <;> rfl

/-- What is done in the session changes nothing else. -/
theorem running_run {α β : Type} (m : Run α) (f : α → β) (g : Gateway) :
    ((running m >>= fun a => return f a : Use β)).run.run g =
      ((m.run.run g.session).1.map f, { g with session := (m.run.run g.session).2 }) := by
  have hrun : (running m).run.run g =
      ((m.run.run g.session).1, { g with session := (m.run.run g.session).2 }) := rfl
  rw [run_bind, hrun]
  generalize m.run.run g.session = done
  obtain ⟨a, session⟩ := done
  cases a <;> rfl

/-! ### Asking for a statement -/

/-- Asking the registry leaves the engine as it is and the session quiet. -/
theorem obtain_quiet (q : Request) (g : Gateway) :
    ((obtain q).run g).2.engine = g.engine ∧ g.session.Quiet ((obtain q).run g).2.session := by
  obtain ⟨as, -, has⟩ := g.registry.obtain_eq_ask_run q
  rw [← Registry.run_cons] at has
  obtain ⟨news, hnews, hquiet⟩ := g.registry.run_logsNoCall (.ask .caller q :: as)
  have hdrop : (g.registry.obtain q).events.drop g.registry.events.length = news := by
    rw [has, hnews, List.drop_left]
  exact ⟨rfl, rfl, rfl, _, rfl, by rwa [hdrop]⟩

/-- The registry's answer is all that decides whether a statement is found. -/
theorem resolve_run (name : String) (g : Gateway) :
    (resolve name).run.run g =
      match (obtain (.statement name)).run g with
      | (some (.statement s), g') => (.ok s, g')
      | (a, g') => (.error (g'.errorOf a), g') := by
  have hlift : (liftM (obtain (.statement name)) : Use (Option Answer)).run.run g =
      (.ok ((obtain (.statement name)).run g).1, ((obtain (.statement name)).run g).2) := rfl
  unfold resolve
  rw [run_bind, hlift]
  generalize (obtain (.statement name)).run g = asked
  obtain ⟨a, g'⟩ := asked
  rcases a with _ | (_ | _ | _ | _) <;> rfl

theorem resolve_quiet (name : String) (g : Gateway) :
    ((resolve name).run.run g).2.engine = g.engine ∧
      g.session.Quiet ((resolve name).run.run g).2.session := by
  have hstate : ((resolve name).run.run g).2 = ((obtain (.statement name)).run g).2 := by
    rw [resolve_run]
    generalize (obtain (.statement name)).run g = asked
    obtain ⟨a, g'⟩ := asked
    rcases a with _ | (_ | _ | _ | _) <;> rfl
  rw [hstate]
  exact obtain_quiet _ g

/-! ### Statements by name -/

/-- A call for a statement that is not found or not rendered goes no further. -/
theorem invoke_of_missing {e : Error} (hs : (resolve name).run.run g = (.error e, g')) :
    (invoke name params cls).run.run g = (.error e, g') := by
  unfold invoke
  rw [run_bind, hs]

theorem invoke_of_unrendered {e : Error} (hs : (resolve name).run.run g = (.ok s, g'))
    (hsql : renderStatement s params = .error e) :
    (invoke name params cls).run.run g = (.error e, g') := by
  unfold invoke
  rw [run_bind, hs]
  dsimp only
  rw [hsql]
  rfl

/-- The result of a statement, as it is given back. -/
def shaped (s : Statement) (rows : List Value) : Value := if s.collapses then firstOf rows else .list rows

/-- A statement that is found and rendered is executed. -/
theorem invoke_of_rendered (hs : (resolve name).run.run g = (.ok s, g'))
    (hsql : renderStatement s params = .ok sql) :
    (invoke name params cls).run.run g =
      (((g'.engine.execute sql (.known s.type) params cls).run.run g'.session).1.map (shaped s),
        { g' with session := ((g'.engine.execute sql (.known s.type) params cls).run.run g'.session).2 }) := by
  unfold invoke
  rw [run_bind, hs]
  dsimp only
  rw [hsql]
  exact running_run _ (shaped s) g'

/-- What a call for a statement comes to when the registry has been asked: it fails, or it is up to the engine. -/
theorem invoke_cases (name : String) (params : Template.Params) (cls : Option EntityClass) (g : Gateway) :
    ∃ g', ((resolve name).run.run g).2 = g' ∧ g.session.Quiet g'.session ∧
      ((∃ e, (invoke name params cls).run.run g = (.error e, g')) ∨
        ∃ s sql, (resolve name).run.run g = (.ok s, g') ∧ renderStatement s params = .ok sql ∧
          (invoke name params cls).run.run g =
            (((g'.engine.execute sql (.known s.type) params cls).run.run g'.session).1.map (shaped s),
              { g' with session := ((g'.engine.execute sql (.known s.type) params cls).run.run g'.session).2 })) := by
  obtain ⟨-, hquiet⟩ := resolve_quiet name g
  cases hs : (resolve name).run.run g with
  | mk found g' =>
      rw [hs] at hquiet
      refine ⟨g', rfl, hquiet, ?_⟩
      cases found with
      | error e => exact .inl ⟨e, invoke_of_missing hs⟩
      | ok s =>
          cases hsql : renderStatement s params with
          | error e => exact .inl ⟨e, invoke_of_unrendered hs hsql⟩
          | ok sql => exact .inr ⟨s, sql, rfl, hsql, invoke_of_rendered hs hsql⟩

theorem execute_run (sql : String) (type : TypeName) (params : Template.Params) (cls : Option EntityClass)
    (g : Gateway) :
    (execute sql type params cls).run.run g =
      (((g.engine.execute sql type params cls).run.run g.session).1.map Value.list,
        { g with session := ((g.engine.execute sql type params cls).run.run g.session).2 }) :=
  running_run (g.engine.execute sql type params cls) Value.list g

theorem query_run (sql : String) (type : TypeName) (params : Template.Params) (cls : Option EntityClass)
    (g : Gateway) :
    (query sql type params cls).run.run g =
      (((Engine.query sql type params cls).run.run g.session).1.map Value.list,
        { g with session := ((Engine.query sql type params cls).run.run g.session).2 }) :=
  running_run (Engine.query sql type params cls) Value.list g

/-- Before a page of a statement is read, its text is all there is to know. -/
theorem invokePage_of_error {e : Error} (ht : (pageText name params).run.run g = (.error e, g')) :
    (invokePage name p params).run g = ({ page := p, error := some e }, g') := by
  unfold invokePage
  rw [StateT.run_bind, ht]
  rfl

theorem invokePage_of_text (ht : (pageText name params).run.run g = (.ok sql, g')) :
    (invokePage name p params).run g = (selectPage sql p params).run g' := by
  unfold invokePage
  rw [StateT.run_bind, ht]
  rfl

theorem selectPage_run (sql : String) (p : Paging) (params : Template.Params) (g : Gateway) :
    (selectPage sql p params).run g =
      (((g.engine.paginate sql p params).run g.session).1,
        { g with session := ((g.engine.paginate sql p params).run g.session).2 }) := rfl

/-- The text of a page is that of a `SELECT` that has been found and rendered. -/
theorem pageText_run (name : String) (params : Template.Params) (g : Gateway) :
    (pageText name params).run.run g =
      match (resolve name).run.run g with
      | (.error e, g') => (.error e, g')
      | (.ok s, g') =>
        (if s.type = .select then renderStatement s params else .error (.refused (.notSelect name)), g') := by
  unfold pageText
  rw [run_bind]
  generalize (resolve name).run.run g = found
  obtain ⟨s, g'⟩ := found
  cases s with
  | error e => rfl
  | ok s =>
      dsimp only
      by_cases hs : s.type = .select
      · rw [if_pos hs, if_neg (by simpa using hs)]
        cases renderStatement s params <;> rfl
      · rw [if_neg hs, if_pos hs]
        rfl

/-- Looking for the text of a page sends nothing. -/
theorem pageText_quiet (name : String) (params : Template.Params) (g : Gateway) :
    g.session.Quiet ((pageText name params).run.run g).2.session := by
  obtain ⟨-, hquiet⟩ := resolve_quiet name g
  rw [pageText_run]
  generalize (resolve name).run.run g = found at hquiet
  obtain ⟨s, g'⟩ := found
  cases s <;> exact hquiet

/-- What a call for a page of a statement comes to: it fails before its text is known, or it is one for the text. -/
theorem invokePage_cases (name : String) (p : Paging) (params : Template.Params) (g : Gateway) :
    ∃ g', ((pageText name params).run.run g).2 = g' ∧ g.session.Quiet g'.session ∧
      ((∃ e, (invokePage name p params).run g = ({ page := p, error := some e }, g')) ∨
        ∃ sql, (invokePage name p params).run g = (selectPage sql p params).run g') := by
  have hquiet := pageText_quiet name params g
  cases ht : (pageText name params).run.run g with
  | mk text g' =>
      rw [ht] at hquiet
      refine ⟨g', rfl, hquiet, ?_⟩
      cases text with
      | error e => exact .inl ⟨e, invokePage_of_error ht⟩
      | ok sql => exact .inr ⟨sql, invokePage_of_text ht⟩

/-! ### Steps -/

/-- A call that sends SQL. -/
inductive Step
  | invoke (name : String) (params : Template.Params) (cls : Option EntityClass)
  | invokePage (name : String) (page : Paging) (params : Template.Params)
  | selectPage (sql : String) (page : Paging) (params : Template.Params)
  | execute (sql : String) (type : TypeName) (params : Template.Params) (cls : Option EntityClass)
  | query (sql : String) (type : TypeName) (params : Template.Params) (cls : Option EntityClass)

/-- The page that a step is given. -/
def Step.page : Step → Option Paging
  | .invokePage _ p _ | .selectPage _ p _ => some p
  | _ => none

/-- What a step comes to: its value, unless it is for a page; the error that ended it, if any; and the page
that it was given, as it leaves it. -/
structure StepOutcome where
  value : Option Value := none
  error : Option Error := none
  page : Option Paging := none

/-- The outcome of a call for a value. -/
def StepOutcome.ofResult : Except Error Value → StepOutcome
  | .ok v => { value := some v }
  | .error e => { error := some e }

/-- The outcome of a call for a page. -/
def StepOutcome.ofPage (o : PageOutcome) : StepOutcome := { error := o.error, page := some o.page }

/-- Take a step. -/
def Step.run : Step → StateM Gateway StepOutcome
  | .invoke name params cls => return .ofResult (← (Gateway.invoke name params cls).run)
  | .invokePage name p params => return .ofPage (← Gateway.invokePage name p params)
  | .selectPage sql p params => return .ofPage (← Gateway.selectPage sql p params)
  | .execute sql type params cls => return .ofResult (← (Gateway.execute sql type params cls).run)
  | .query sql type params cls => return .ofResult (← (Gateway.query sql type params cls).run)

/-! ### A gateway at work -/

/-- A statement in which there is nothing to fill in. -/
def plainStatement (name : String) (type : QueryType) (text : String) : Statement where
  name := .str name
  type
  source := .str text
  template :=
    { source := text, preview := text, context := [], strict := false,
      program := { externals := [], scope := default, body := [.text text], loops := [], snippets := [] },
      parameters := [] }
  single := false

/-- A gateway whose document has been loaded. -/
def loadedGateway (engine : Engine) (table : Table) (responses : List Response) : Gateway where
  engine
  classes := []
  session := { responses }
  registry :=
    { path := some "mapper.xml", limit := none, loading := .silent (.ok table), reachable := true,
      phase := .ready table }

end Gateway
end SqlMapper
