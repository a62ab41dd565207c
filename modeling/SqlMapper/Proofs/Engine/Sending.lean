import Mathlib
import SqlMapper.Gateway
import SqlMapper.Proofs.Value.Outcome
/-!
# SqlMapper.Proofs.Engine.Sending

What calls do to a session, once and with everything that decides it: a statement that is not refused is
logged, sent and answered (`Engine.execute_of_ok`); a page is counted and then perhaps read, and there are five
ways for that to end (`Paginates`). What the database answers is never the library's own verdict
(`Response.not_refused`), so a call that is refused has not come as far as to send anything.
-/

namespace SqlMapper

/-! ### Refusals -/

/-- Is an error the library's own verdict? -/
def Error.isRefused : Error → Bool
  | refused _ => true
  | _ => false

theorem Error.ofHydration_not_refused (e : HydrationError) : (ofHydration e).isRefused = false := by
  cases e <;> rfl

/-- Rows that are no entities are not refused. -/
theorem Response.hydrate_not_refused {c : EntityClass} {rows : List Row} {e : Error}
    (h : hydrate c rows = .error e) : e.isRefused = false := by
  obtain ⟨row, -, hrow⟩ := exists_of_mapM_eq_error h
  split at hrow
  case _ => cases hrow
  case _ err _ =>
      cases hrow
      exact Error.ofHydration_not_refused err

/-- The database's answer refuses nothing. -/
theorem Response.not_refused {r : Response} {type : QueryType} {cls : Option EntityClass} {e : Error}
    (h : r.result type cls = .error e) : e.isRefused = false := by
  cases r with
  | error text =>
      cases h
      rfl
  | rows rs affected =>
      cases type with
      | select =>
          cases cls with
          | some c => exact hydrate_not_refused h
          | none => cases h
      | _ => cases h
  | count affected => cases type <;> cases h

/-- Nor does a result that states no count. -/
theorem countOf_not_refused {rows : List Value} {e : Error} (h : countOf rows = .error e) :
    e.isRefused = false := by
  unfold countOf at h
  split at h
  case _ => cases h
  case _ =>
      split at h
      case _ =>
          cases h
          rfl
      case _ =>
          split at h
          case _ => cases h
          case _ =>
              cases h
              rfl

/-! ### One statement -/

namespace Session

/-- A session in which something has been logged. -/
def logged (s : Session) (e : Event) : Session := { s with events := s.events ++ [e] }

/-- How a transaction ends in which a statement comes to a result. -/
def endingOf : Except Error (List Value) → Ending
  | .ok _ => .commit
  | .error _ => .rollback

/-- A session after a statement has been sent and answered. -/
def sent (s : Session) (sql : String) (params : Template.Params) (result : Except Error (List Value)) :
    Session :=
  { s with responses := s.responses.tail, calls := s.calls ++ [⟨sql, params, endingOf result⟩] }

/-- A session after a statement has been executed. -/
def executed (s : Session) (e : Engine) (sql : String) (params : Template.Params)
    (result : Except Error (List Value)) : Session :=
  (s.logged (.executed e.loud (Sql.normalize sql))).sent (Sql.normalize sql) params result

end Session

variable {e : Engine} {sql : String} {params : Template.Params} {type : TypeName} {t : QueryType}
  {cls : Option EntityClass} {s : Session}

theorem TypeName.resolve_known (t : QueryType) (supported : QueryType → Bool) :
    (TypeName.known t).resolve supported =
      if supported t then .ok t else .error (.refused (.unsupportedType t.shown)) := by
  unfold TypeName.resolve TypeName.type? TypeName.shown
  cases h : supported t <;> simp [Option.filter, h]

/-- A statement of no kind that the engine runs is not sent. -/
theorem Engine.execute_of_error {err : Error} (h : type.resolve e.types.contains = .error err) :
    (e.execute sql type params cls).run.run s = (.error err, s) := by
  unfold execute
  rw [h]
  rfl

/-- Any other is logged, sent and answered. -/
theorem Engine.execute_of_ok (h : type.resolve e.types.contains = .ok t) :
    (e.execute sql type params cls).run.run s =
      (s.next.result t cls, s.executed e sql params (s.next.result t cls)) := by
  unfold execute
  rw [h]
  rfl

/-- Free SQL is sent as it is, and without a word, if a kind is meant. -/
theorem Engine.query_of_error {err : Error} (h : type.resolve (fun _ => true) = .error err) :
    (query sql type params cls).run.run s = (.error err, s) := by
  unfold query
  rw [h]
  rfl

theorem Engine.query_of_ok (h : type.resolve (fun _ => true) = .ok t) :
    (query sql type params cls).run.run s =
      (s.next.result t cls, s.sent sql params (s.next.result t cls)) := by
  unfold query
  rw [h]
  rfl

/-! ### One page -/

/-- The number of rows that the database is about to state. -/
def Session.counted (s : Session) : Except Error Int := s.next.result .select none >>= countOf

/-- A session after the rows have been counted. -/
def Session.afterCount (s : Session) (e : Engine) (sql : String) (params : Template.Params) : Session :=
  s.executed e (Sql.deriveCount sql) params (s.next.result .select none)

/-- A session after the rows have been counted and those in a window asked for. -/
def Session.afterWindow (s : Session) (e : Engine) (sql : String) (p : Paging) (params : Template.Params) :
    Session :=
  (s.afterCount e sql params).executed e (Sql.window sql p.index p.size) params
    ((s.afterCount e sql params).next.result .select none)

/-- How a call for a page ends, with what it leaves of the page and of the session. -/
inductive Engine.Paginates (e : Engine) (sql : String) (p : Paging) (params : Template.Params) (s : Session) :
    PageOutcome → Session → Prop
  /-- The engine runs no `SELECT`. -/
  | refused (unsupported : e.types.contains .select = false) :
      Paginates e sql p params s
        { page := p, error := some (.refused (.unsupportedType QueryType.select.shown)) } s
  | uncounted {err : Error} (supported : e.types.contains .select = true) (counted : s.counted = .error err) :
      Paginates e sql p params s { page := p, error := some err } (s.afterCount e sql params)
  | empty {n : Int} (supported : e.types.contains .select = true) (counted : s.counted = .ok n) (none : n ≤ 0) :
      Paginates e sql p params s { page := { p with count := some n } }
        ((s.afterCount e sql params).logged (.paged p.index p.size n))
  /-- The rows have been counted, but not read. -/
  | unread {n : Int} {err : Error} (supported : e.types.contains .select = true) (counted : s.counted = .ok n)
      (positive : 0 < n) (failed : (s.afterCount e sql params).next.result .select none = .error err) :
      Paginates e sql p params s { page := { p with count := some n }, error := some err }
        (s.afterWindow e sql p params)
  | read {n : Int} {rows : List Value} (supported : e.types.contains .select = true)
      (counted : s.counted = .ok n) (positive : 0 < n)
      (found : (s.afterCount e sql params).next.result .select none = .ok rows) :
      Paginates e sql p params s { page := { p with count := some n, items := some rows } }
        ((s.afterWindow e sql p params).logged (.paged p.index p.size n))

theorem Engine.count_run (h : e.types.contains .select = true) :
    (e.count sql params).run.run s = (s.counted, s.afterCount e sql params) := by
  have hresolve := TypeName.resolve_known .select e.types.contains
  rw [if_pos h] at hresolve
  have hrun : (e.execute (Sql.deriveCount sql) (.known .select) params none).run.run s =
      (s.next.result .select none, s.afterCount e sql params) := execute_of_ok hresolve
  unfold count Session.counted
  rw [ExceptT.run_bind, StateT.run_bind, hrun]
  cases s.next.result .select none with
  | error err => rfl
  | ok rows => cases hcount : countOf rows <;> simp [hcount, bind, Except.bind] <;> rfl

theorem Engine.count_of_unsupported (h : e.types.contains .select = false) :
    (e.count sql params).run.run s = (.error (.refused (.unsupportedType QueryType.select.shown)), s) := by
  have hresolve := TypeName.resolve_known .select e.types.contains
  rw [h, if_neg Bool.false_ne_true] at hresolve
  unfold count
  rw [ExceptT.run_bind, StateT.run_bind, execute_of_error hresolve]
  rfl

theorem Engine.paginate_paginates (e : Engine) (sql : String) (p : Paging) (params : Template.Params)
    (s : Session) :
    Paginates e sql p params s ((e.paginate sql p params).run s).1 ((e.paginate sql p params).run s).2 := by
  cases hsupported : e.types.contains .select with
  | false =>
      unfold paginate
      rw [StateT.run_bind, count_of_unsupported hsupported]
      exact .refused hsupported
  | true =>
      have hresolve := TypeName.resolve_known .select e.types.contains
      rw [if_pos hsupported] at hresolve
      unfold paginate
      rw [StateT.run_bind, count_run hsupported]
      cases hcounted : s.counted with
      | error err => exact .uncounted hsupported hcounted
      | ok n =>
          dsimp only [bind, Id.run]
          by_cases hn : n ≤ 0
          · rw [if_pos hn]
            exact .empty hsupported hcounted hn
          · rw [if_neg hn]
            have hpositive : 0 < n := by omega
            have hwindow : (e.window sql { p with count := some n } params).run.run (s.afterCount e sql params) =
                ((s.afterCount e sql params).next.result .select none, s.afterWindow e sql p params) :=
              execute_of_ok hresolve
            change Paginates e sql p params s (((_ >>= _ : StateM Session PageOutcome)).run _).1
              (((_ >>= _ : StateM Session PageOutcome)).run _).2
            rw [StateT.run_bind, hwindow]
            cases hfound : (s.afterCount e sql params).next.result .select none with
            | error err => exact .unread hsupported hcounted hpositive hfound
            | ok rows => exact .read hsupported hcounted hpositive hfound

end SqlMapper
