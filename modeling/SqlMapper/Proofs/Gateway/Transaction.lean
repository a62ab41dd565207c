import Mathlib
import SqlMapper.Proofs.Gateway.Exchange
/-!
# SqlMapper.Proofs.Gateway.Transaction

How the transactions of a step end. Whatever a step sends, its transactions are committed one after the other
up to the first statement that fails, which is rolled back, is the last one, and ends the step with an
error (`Orderly`). One statement is orderly because its transaction ends as its result says; a page,
because its second statement is sent only if the first one has not failed, though the step may still fail
between the two when the count is read. Taking steps one after the other puts their exchanges in a row
(`exchanges_runAll`), so the law holds of everything that ever reaches the database (`transactions_lawful`).
-/

namespace SqlMapper

/-! ### Orderly exchanges -/

/-- Does a statement fail on a response, if it is known how its rows are read? -/
def Response.FailsIf (reading : Option Reading) (r : Response) : Prop :=
  ∃ how, reading = some how ∧ r.Fails how

/-- Exchanges of a step that ends with an error or none: all are committed up to one that fails, which is
rolled back and is the last one, and then the step ends with an error. -/
inductive Orderly (reading : Option Reading) (error : Option Error) : List Exchange → Prop
  | done : Orderly reading error []
  | failed {x : Exchange} (ending : x.call.ending = .rollback) (fails : x.response.FailsIf reading)
      (known : error.isSome = true) : Orderly reading error [x]
  | next {x : Exchange} {xs : List Exchange} (ending : x.call.ending = .commit)
      (succeeds : ¬ x.response.FailsIf reading) (rest : Orderly reading error xs) :
      Orderly reading error (x :: xs)

namespace Orderly

variable {reading : Option Reading} {error : Option Error} {xs : List Exchange} {x : Exchange}
  {sql : String} {params : Template.Params} {r : Response}

theorem rollback_iff (h : Orderly reading error xs) (hx : x ∈ xs) :
    x.call.ending = .rollback ↔ x.response.FailsIf reading := by
  induction h with
  | done => cases hx
  | failed ending fails =>
      obtain rfl := List.mem_singleton.mp hx
      exact ⟨fun _ => fails, fun _ => ending⟩
  | next ending succeeds rest ih =>
      rcases List.mem_cons.mp hx with rfl | hx
      · rw [ending]
        exact ⟨fun h => (nomatch h), fun h => absurd h succeeds⟩
      · exact ih hx

theorem last_of_rollback (h : Orderly reading error xs) {n : Nat} (hx : xs[n]? = some x)
    (rollback : x.call.ending = .rollback) : n + 1 = xs.length ∧ error.isSome = true := by
  induction h generalizing n with
  | done => simp at hx
  | failed ending fails known =>
      cases n with
      | zero => exact ⟨rfl, known⟩
      | succ n => simp at hx
  | next ending succeeds rest ih =>
      cases n with
      | zero =>
          cases hx
          rw [ending] at rollback
          cases rollback
      | succ n =>
          obtain ⟨hlast, known⟩ := ih hx
          exact ⟨congrArg (· + 1) hlast, known⟩

theorem commit_of_success (h : Orderly reading none xs) (hx : x ∈ xs) : x.call.ending = .commit := by
  induction h with
  | done => cases hx
  | failed ending fails known => cases known
  | next ending succeeds rest ih =>
      rcases List.mem_cons.mp hx with rfl | hx
      · exact ending
      · exact ih hx

/-- A statement that does not fail may be followed by others. -/
theorem cons_of_ok (how : Reading) {rows : List Value} (hr : r.result how.type how.cls = .ok rows)
    (rest : Orderly (some how) error xs) :
    Orderly (some how) error (⟨⟨sql, params, Session.endingOf (r.result how.type how.cls)⟩, r⟩ :: xs) := by
  refine .next (by rw [hr]; rfl) ?_ rest
  rintro ⟨how', hhow, fails⟩
  cases hhow
  obtain ⟨e, failed⟩ := (r.result_eq_error_iff how).mpr fails
  rw [hr] at failed
  cases failed

/-- One statement, which ends its step with an error if it fails. -/
theorem single (how : Reading) (known : ∀ e, r.result how.type how.cls = .error e → error.isSome = true) :
    Orderly (some how) error [⟨⟨sql, params, Session.endingOf (r.result how.type how.cls)⟩, r⟩] := by
  cases hr : r.result how.type how.cls with
  | ok rows =>
      rw [← hr]
      exact cons_of_ok how hr .done
  | error e =>
      exact .failed rfl ⟨how, rfl, (r.result_eq_error_iff how).mp ⟨e, hr⟩⟩ (known e hr)

end Orderly

/-- What is exchanged from one state of a session to the other by a step that ends with an error or none: it is
orderly, and if the step is `loud`, it is logged as it is sent. -/
def Session.Conducts (s s' : Session) (reading : Option Reading) (error : Option Error) (loud : Bool) : Prop :=
  ∃ xs texts, s.Exchanges s' xs texts ∧ Orderly reading error xs ∧
    (loud = true → texts = xs.map (·.call.sql))

variable {s s' : Session} {reading : Option Reading} {error : Option Error} {loud : Bool}

theorem Session.Quiet.conducts (h : s.Quiet s') : s.Conducts s' reading error loud :=
  ⟨[], [], h.exchanges, .done, fun _ => rfl⟩

/-- Before a step sends anything, it may be quiet. -/
theorem Session.Conducts.after_quiet {s₀ : Session} (h₀ : s₀.Quiet s) (h : s.Conducts s' reading error loud) :
    s₀.Conducts s' reading error loud := by
  obtain ⟨xs, texts, hxs, orderly, logged⟩ := h
  exact ⟨xs, texts, h₀.exchanges.append hxs, orderly, logged⟩

/-! ### What an engine sends -/

/-- The error of a result, if it is one. -/
def errorOf? {α : Type} : Except Error α → Option Error
  | .ok _ => none
  | .error e => some e

@[simp] theorem errorOf?_map {α β : Type} (f : α → β) (r : Except Error α) : errorOf? (r.map f) = errorOf? r := by
  cases r <;> rfl

theorem TypeName.type?_of_resolve {type : TypeName} {supported : QueryType → Bool} {t : QueryType}
    (h : type.resolve supported = .ok t) : type.type? = some t := by
  unfold resolve at h
  split at h
  case _ t' ht =>
      cases h
      exact (Option.filter_eq_some_iff.mp ht).1
  case _ => split at h <;> cases h

variable (e : Engine) (sql : String) (type : TypeName) (params : Template.Params) (cls : Option EntityClass)

theorem Engine.execute_conducts (s : Session) :
    s.Conducts ((e.execute sql type params cls).run.run s).2 (type.type?.map (⟨·, cls⟩))
      (errorOf? ((e.execute sql type params cls).run.run s).1) true := by
  cases htype : type.resolve e.types.contains with
  | error err =>
      rw [execute_of_error htype]
      exact (Session.Quiet.refl s).conducts
  | ok t =>
      rw [execute_of_ok htype, TypeName.type?_of_resolve htype]
      refine ⟨_, _, s.executed_exchanges e sql params _, Orderly.single ⟨t, cls⟩ ?_, fun _ => rfl⟩
      intro err failed
      simp [errorOf?, failed]

theorem Engine.query_conducts (s : Session) :
    s.Conducts ((query sql type params cls).run.run s).2 (type.type?.map (⟨·, cls⟩))
      (errorOf? ((query sql type params cls).run.run s).1) false := by
  cases htype : type.resolve (fun _ => true) with
  | error err =>
      rw [query_of_error htype]
      exact (Session.Quiet.refl s).conducts
  | ok t =>
      rw [query_of_ok htype, TypeName.type?_of_resolve htype]
      refine ⟨_, _, s.sent_exchanges sql params _, Orderly.single ⟨t, cls⟩ ?_, fun h => nomatch h⟩
      intro err failed
      simp [errorOf?, failed]

/-- How the statements of a page are read. -/
def pageReading : Reading := ⟨.select, none⟩

/-- What is counted has been read. -/
theorem Session.found_of_counted {n : Int} (h : s.counted = .ok n) :
    ∃ rows, s.next.result .select none = .ok rows := by
  obtain ⟨rows, hrows, -⟩ := bind_eq_ok_iff.mp h
  exact ⟨rows, hrows⟩

theorem Engine.Paginates.conducts {p : Paging} {o : PageOutcome} (h : Paginates e sql p params s o s') :
    s.Conducts s' (some pageReading) o.error true := by
  have counting := s.executed_exchanges e (Sql.deriveCount sql) params (s.next.result .select none)
  have quiet (s : Session) (n : Int) : s.Quiet (s.logged (.paged p.index p.size n)) := Session.logged_quiet rfl
  have windowing := (s.afterCount e sql params).executed_exchanges e (Sql.window sql p.index p.size) params
    ((s.afterCount e sql params).next.result .select none)
  cases h with
  | refused => exact (Session.Quiet.refl s).conducts
  | uncounted _ counted =>
      -- the statement has failed, or has been committed and states no count
      exact ⟨_, _, counting, Orderly.single pageReading fun _ _ => rfl, fun _ => rfl⟩
  | empty _ counted =>
      obtain ⟨rows, hrows⟩ := Session.found_of_counted counted
      refine ⟨_, _, counting.append (quiet _ _).exchanges, ?_, fun _ => rfl⟩
      exact Orderly.cons_of_ok pageReading hrows .done
  | unread _ counted =>
      obtain ⟨rows, hrows⟩ := Session.found_of_counted counted
      refine ⟨_, _, counting.append windowing, ?_, fun _ => rfl⟩
      exact Orderly.cons_of_ok pageReading hrows (Orderly.single pageReading fun _ _ => rfl)
  | read _ counted _ found =>
      obtain ⟨rows, hrows⟩ := Session.found_of_counted counted
      refine ⟨_, _, (counting.append windowing).append (quiet _ _).exchanges, ?_, fun _ => rfl⟩
      exact Orderly.cons_of_ok pageReading hrows (Orderly.cons_of_ok pageReading found .done)

namespace Gateway

/-! ### What a step sends -/

/-- How the rows of a step's statements are read; nothing if no kind is meant. -/
def Step.reading? (g : Gateway) : Step → Option Reading
  | .invoke name _ cls =>
    match ((resolve name).run.run g).1 with
    | .ok s => some ⟨s.type, cls⟩
    | .error _ => none
  | .invokePage .. | .selectPage .. => some pageReading
  | .execute _ type _ cls | .query _ type _ cls => type.type?.map (⟨·, cls⟩)

/-- Does a step log what it sends? -/
def Step.isLoud : Step → Bool
  | .query .. => false
  | _ => true

theorem StepOutcome.error_eq_errorOf? (r : Except Error Value) : (StepOutcome.ofResult r).error = errorOf? r := by
  cases r <;> rfl

theorem reading?_invoke {name : String} {g g' : Gateway} {s : Mapper.Statement}
    (hs : (resolve name).run.run g = (.ok s, g')) :
    (Step.invoke name params cls).reading? g = some ⟨s.type, cls⟩ := by
  unfold Step.reading?
  dsimp only
  rw [hs]

theorem invoke_conducts (name : String) (g : Gateway) :
    g.session.Conducts ((invoke name params cls).run.run g).2.session
      ((Step.invoke name params cls).reading? g) (errorOf? ((invoke name params cls).run.run g).1) true := by
  obtain ⟨g', -, hquiet, ⟨err, hfails⟩ | ⟨s, sql, hs, -, hruns⟩⟩ := invoke_cases name params cls g
  · rw [hfails]
    exact hquiet.conducts
  · rw [hruns, errorOf?_map, reading?_invoke params cls hs]
    exact (g'.engine.execute_conducts sql (.known s.type) params cls g'.session).after_quiet hquiet

theorem selectPage_conducts (p : Paging) (g : Gateway) :
    g.session.Conducts ((selectPage sql p params).run g).2.session (some pageReading)
      ((selectPage sql p params).run g).1.error true := by
  rw [selectPage_run]
  exact (g.engine.paginate_paginates sql p params g.session).conducts

theorem invokePage_conducts (name : String) (p : Paging) (g : Gateway) :
    g.session.Conducts ((invokePage name p params).run g).2.session (some pageReading)
      ((invokePage name p params).run g).1.error true := by
  obtain ⟨g', -, hquiet, ⟨err, hfails⟩ | ⟨sql, hruns⟩⟩ := invokePage_cases name p params g
  · rw [hfails]
    exact hquiet.conducts
  · rw [hruns]
    exact (selectPage_conducts sql params p g').after_quiet hquiet

theorem Step.conducts (step : Step) (g : Gateway) :
    g.session.Conducts (step.run.run g).2.session (step.reading? g) (step.run.run g).1.error step.isLoud := by
  cases step with
  | invoke name params cls =>
      have h := invoke_conducts params cls name g
      rwa [← StepOutcome.error_eq_errorOf?] at h
  | invokePage name p params => exact invokePage_conducts params name p g
  | selectPage sql p params => exact selectPage_conducts sql params p g
  | execute sql type params cls =>
      have h := g.engine.execute_conducts sql type params cls g.session
      rw [← errorOf?_map Value.list, ← StepOutcome.error_eq_errorOf?] at h
      have hrun := execute_run sql type params cls g
      change g.session.Conducts ((Gateway.execute sql type params cls).run.run g).2.session _
        (StepOutcome.ofResult ((Gateway.execute sql type params cls).run.run g).1).error true
      rw [hrun]
      exact h
  | query sql type params cls =>
      have h := Engine.query_conducts sql type params cls g.session
      rw [← errorOf?_map Value.list, ← StepOutcome.error_eq_errorOf?] at h
      have hrun := query_run sql type params cls g
      change g.session.Conducts ((Gateway.query sql type params cls).run.run g).2.session _
        (StepOutcome.ofResult ((Gateway.query sql type params cls).run.run g).1).error false
      rw [hrun]
      exact h

/-! ### Steps one after the other -/

/-- What a step has done: how it reads rows, what it comes to, what it has exchanged with the database, and the
texts that it has logged as sent. -/
structure Transcript where
  step : Step
  reading : Option Reading
  outcome : StepOutcome
  exchanges : List Exchange
  logged : List String

/-- Take a step and take down what it does. -/
def Step.transcript (step : Step) (g : Gateway) : Transcript where
  step
  reading := step.reading? g
  outcome := (step.run.run g).1
  exchanges := g.session.since (step.run.run g).2.session
  logged := g.session.loggedSince (step.run.run g).2.session

/-- The transcripts of steps that are taken one after the other, and the gateway after them. -/
def runAll : List Step → Gateway → List Transcript × Gateway
  | [], g => ([], g)
  | step :: steps, g =>
    let (ts, g') := runAll steps (step.run.run g).2
    (step.transcript g :: ts, g')

/-- A step whose transactions end as they should. -/
structure Transcript.Lawful (t : Transcript) : Prop where
  /-- A statement is rolled back exactly if it fails, and else committed. -/
  rollback_iff : ∀ x ∈ t.exchanges, x.call.ending = .rollback ↔ x.response.FailsIf t.reading
  /-- One that is rolled back is the last one, and the step answers with an error. -/
  last : ∀ n x, t.exchanges[n]? = some x → x.call.ending = .rollback →
    n + 1 = t.exchanges.length ∧ t.outcome.error.isSome = true
  committed : t.outcome.error = none → ∀ x ∈ t.exchanges, x.call.ending = .commit
  /-- What is sent is logged, except for SQL that is sent as it is. -/
  logged : t.step.isLoud = true → t.logged = t.exchanges.map (·.call.sql)

/-- A step tells what it has exchanged, and that is orderly. -/
theorem Step.transcript_exchanges (step : Step) (g : Gateway) :
    g.session.Exchanges (step.run.run g).2.session (step.transcript g).exchanges (step.transcript g).logged ∧
      (step.transcript g).Lawful := by
  obtain ⟨xs, texts, hxs, orderly, logged⟩ := step.conducts g
  obtain ⟨hsince, hlogged⟩ := hxs.since_eq
  have hexchanges : (step.transcript g).exchanges = xs := hsince
  have htexts : (step.transcript g).logged = texts := hlogged
  rw [hexchanges, htexts]
  refine ⟨hxs, ?_, ?_, ?_, ?_⟩
  · rw [hexchanges]
    exact fun x hx => orderly.rollback_iff hx
  · rw [hexchanges]
    exact fun n x hx rollback => orderly.last_of_rollback hx rollback
  · intro succeeds
    rw [hexchanges]
    change Orderly _ (step.transcript g).outcome.error xs at orderly
    rw [succeeds] at orderly
    exact fun x hx => orderly.commit_of_success hx
  · rw [hexchanges, htexts]
    exact logged

/-- Everything that is exchanged in a run is exchanged by its steps, one after the other. -/
theorem exchanges_runAll (steps : List Step) (g : Gateway) :
    g.session.Exchanges (runAll steps g).2.session ((runAll steps g).1.flatMap (·.exchanges))
      ((runAll steps g).1.flatMap (·.logged)) := by
  induction steps generalizing g with
  | nil => exact (Session.Quiet.refl _).exchanges
  | cons step steps ih => exact (step.transcript_exchanges g).1.append (ih _)

theorem lawful_runAll (steps : List Step) (g : Gateway) : ∀ t ∈ (runAll steps g).1, t.Lawful := by
  induction steps generalizing g with
  | nil => exact fun t ht => nomatch ht
  | cons step steps ih =>
      intro t ht
      rcases List.mem_cons.mp ht with rfl | ht
      · exact (step.transcript_exchanges g).2
      · exact ih _ t ht

/-- **Transactions end as they should.** In every run, each step rolls a statement back exactly if the database
reports an error for it or one of its rows is not the entity that it is to become, and commits it otherwise; a
statement that is rolled back is the last one of its step, which answers with an error, so a step that succeeds
has committed all. But for SQL that is sent as it is, what a step logs as sent is what it sends. And nothing
else is sent: the statements that reach the database are those of the steps, one after the other, and
it answers them with its responses in their order. -/
theorem transactions_lawful (g : Gateway) (steps : List Step) :
    (∀ t ∈ (runAll steps g).1, t.Lawful) ∧
      g.session.Exchanges (runAll steps g).2.session ((runAll steps g).1.flatMap (·.exchanges))
        ((runAll steps g).1.flatMap (·.logged)) :=
  ⟨lawful_runAll steps g, exchanges_runAll steps g⟩

/-- A gateway whose database takes a statement, gives back a row that is no person, states a count, and then
fails. -/
def troubled : Gateway :=
  loadedGateway {} [plainStatement "all" .select "select id from t -- all"]
    [.count 1, .rows [[("id", .int 7)]] (-1), .rows [[(countColumn, .int 2)]] (-1), .error "disk I/O error"]

/-- A statement that changes something, one that reads persons, and a page. -/
def troubledSteps : List Step :=
  [.execute "delete from t" (.known .delete) [] none, .invoke "all" [] (some Catalogue.person),
    .invokePage "all" {} []]

example : (runAll troubledSteps troubled).1.map (fun t => t.exchanges.map (·.call.ending)) =
    [[.commit], [.rollback], [.commit, .rollback]] := by cbv

/-- The rows of the page have been counted, and could not be read. -/
theorem transactions_lawful_of_failed_window :
    ∃ t ∈ (runAll troubledSteps troubled).1, ∃ x, t.exchanges[1]? = some x ∧ x.call.ending = .rollback ∧
      x.response.FailsIf t.reading ∧ t.exchanges.length = 2 ∧ t.outcome.error.isSome = true ∧
      t.logged = ["select count(1) as count from t", "select id from t limit 0,10"] := by
  obtain ⟨lawful, -⟩ := transactions_lawful troubled troubledSteps
  have ht : (runAll troubledSteps troubled).1[2]? = some
      ((Step.invokePage "all" {} []).transcript (runAll (troubledSteps.take 2) troubled).2) := rfl
  have hpage := lawful _ (List.mem_of_getElem? ht)
  refine ⟨_, List.mem_of_getElem? ht, ?_⟩
  obtain ⟨x, hx, rollback⟩ : ∃ x, ((Step.invokePage "all" {} []).transcript
      (runAll (troubledSteps.take 2) troubled).2).exchanges[1]? = some x ∧ x.call.ending = .rollback :=
    ⟨_, by cbv, rfl⟩
  obtain ⟨hlast, known⟩ := hpage.last 1 x hx rollback
  exact ⟨x, hx, rollback, (hpage.rollback_iff x (List.mem_of_getElem? hx)).mp rollback, hlast.symm, known, by cbv⟩

end Gateway
end SqlMapper
