import Mathlib
import SqlMapper.Proofs.Gateway.Step
/-!
# SqlMapper.Proofs.Gateway.Exchange

What is exchanged with the database: the statements that are sent, each with the response it got
(`Session.Exchanges`). Exchanges follow one another (`Session.Exchanges.append`), and the two sessions
between which they have taken place tell what they were (`Session.Exchanges.since_eq`).

A statement runs in a transaction of its own, which is rolled back exactly if the statement fails on
its response (`Response.Fails`): the database reports an error, or a row that is to become an entity is none.
What is made of the result after that, such as a count, no longer touches the transaction.
-/

namespace SqlMapper

/-! ### Statements that fail -/

/-- How the rows of a statement are read: by its kind, and as entities of which class. -/
structure Reading where
  type : QueryType
  cls : Option EntityClass

/-- A response on which a statement fails. -/
inductive Response.Fails (how : Reading) : Response → Prop
  | driver (text : String) : Fails how (.error text)
  /-- Only the rows of a `SELECT` become entities, and only if a class is given. -/
  | hydration {rows : List Row} {row : Row} {c : EntityClass} {e : HydrationError} (affected : Int)
      (select : how.type = .select) (asked : how.cls = some c) (mem : row ∈ rows)
      (failed : c.hydrate row = .error e) : Fails how (.rows rows affected)

/-- A row that is no entity fails all. -/
theorem Response.hydrate_of_failed {c : EntityClass} {rows : List Row} {row : Row} {e : HydrationError}
    (mem : row ∈ rows) (failed : c.hydrate row = .error e) : ∃ err, hydrate c rows = .error err := by
  refine mapM_eq_error_of_mem mem (e := .ofHydration e) ?_
  rw [failed]

theorem Response.exists_of_hydrate {c : EntityClass} {rows : List Row} {err : Error}
    (h : hydrate c rows = .error err) : ∃ row ∈ rows, ∃ e, c.hydrate row = .error e := by
  obtain ⟨row, hrow, failed⟩ := exists_of_mapM_eq_error h
  refine ⟨row, hrow, ?_⟩
  cases hc : c.hydrate row with
  | error e => exact ⟨e, rfl⟩
  | ok v =>
      rw [hc] at failed
      cases failed

/-- The result of a statement is an error exactly if the statement fails. -/
theorem Response.result_eq_error_iff (how : Reading) (r : Response) :
    (∃ err, r.result how.type how.cls = .error err) ↔ r.Fails how := by
  obtain ⟨type, cls⟩ := how
  constructor
  · rintro ⟨err, h⟩
    cases r with
    | error text => exact .driver text
    | count affected => cases type <;> cases h
    | rows rows affected =>
        cases type with
        | select =>
            cases cls with
            | none => cases h
            | some c =>
                obtain ⟨row, hrow, e, failed⟩ := exists_of_hydrate h
                exact .hydration affected rfl rfl hrow failed
        | _ => cases h
  · intro h
    cases h with
    | driver text => exact ⟨_, rfl⟩
    | hydration affected select asked mem failed =>
        obtain rfl : type = .select := select
        obtain rfl : cls = some _ := asked
        exact hydrate_of_failed mem failed

/-! ### Exchanges -/

/-- A statement that has been sent, and what the database answered. -/
structure Exchange where
  call : Call
  response : Response

/-- The text of a statement, in an event that says that it is sent. -/
def Event.sent? : Event → Option String
  | executed _ sql => some sql
  | _ => none

theorem Event.sent?_eq_none_iff {e : Event} : e.sent? = none ↔ e.isExecuted = false := by
  cases e <;> simp [sent?, isExecuted]

namespace Session

/-- The response to the statement that is sent after `n` others. -/
def answer (s : Session) (n : Nat) : Response := s.responses[n]?.getD (.rows [] (-1))

/-- What has been exchanged between two states of a session. -/
def since (s s' : Session) : List Exchange :=
  (s'.calls.drop s.calls.length).mapIdx fun n call => ⟨call, s.answer n⟩

/-- The texts that have been logged as sent between two states of a session. -/
def loggedSince (s s' : Session) : List String :=
  (s'.events.drop s.events.length).filterMap Event.sent?

/-- From one state of a session to the other there have been some exchanges, and some texts have been logged
as sent. -/
structure Exchanges (s s' : Session) (xs : List Exchange) (texts : List String) : Prop where
  calls : s'.calls = s.calls ++ xs.map Exchange.call
  responses : s'.responses = s.responses.drop xs.length
  answered : ∀ {n x}, xs[n]? = some x → x.response = s.answer n
  events : ∃ news, s'.events = s.events ++ news ∧ news.filterMap Event.sent? = texts

variable {s s' s'' : Session} {xs ys : List Exchange} {texts texts' : List String}

/-- A session tells what has been exchanged in it. -/
theorem Exchanges.since_eq (h : s.Exchanges s' xs texts) : s.since s' = xs ∧ s.loggedSince s' = texts := by
  obtain ⟨news, hnews, htexts⟩ := h.events
  constructor
  · unfold since
    rw [h.calls, List.drop_left]
    refine List.ext_getElem? fun n => ?_
    rw [List.getElem?_mapIdx, List.getElem?_map]
    cases hx : xs[n]? with
    | none => rfl
    | some x =>
        obtain ⟨call, response⟩ := x
        have hresponse : response = s.answer n := h.answered hx
        simp [hresponse]
  · unfold loggedSince
    rw [hnews, List.drop_left, htexts]

theorem Exchanges.append (h : s.Exchanges s' xs texts) (h' : s'.Exchanges s'' ys texts') :
    s.Exchanges s'' (xs ++ ys) (texts ++ texts') := by
  obtain ⟨news, hnews, htexts⟩ := h.events
  obtain ⟨news', hnews', htexts'⟩ := h'.events
  refine ⟨?_, ?_, ?_, news ++ news', ?_, ?_⟩
  · rw [h'.calls, h.calls, List.map_append, List.append_assoc]
  · rw [h'.responses, h.responses, List.drop_drop, List.length_append]
  · intro n x hx
    rw [List.getElem?_append] at hx
    split at hx
    case isTrue hn => exact h.answered hx
    case isFalse hn =>
        have hrest := h'.answered hx
        unfold answer at hrest ⊢
        rw [hrest, h.responses, List.getElem?_drop]
        congr 2
        omega
  · rw [hnews', hnews, List.append_assoc]
  · rw [List.filterMap_append, htexts, htexts']

/-- Where nothing is sent there is no exchange. -/
theorem Quiet.exchanges (h : s.Quiet s') : s.Exchanges s' [] [] := by
  obtain ⟨news, hnews, hquiet⟩ := h.events
  refine ⟨by simp [h.calls], by simp [h.responses], fun hx => by simp at hx, news, hnews, ?_⟩
  rw [List.filterMap_eq_nil_iff]
  exact fun e he => Event.sent?_eq_none_iff.mpr (hquiet e he)

theorem logged_quiet {e : Event} (h : e.isExecuted = false) : s.Quiet (s.logged e) :=
  ⟨rfl, rfl, [e], rfl, by simpa using h⟩

/-- A statement that is sent is one exchange. -/
theorem sent_exchanges (s : Session) (sql : String) (params : Template.Params)
    (result : Except Error (List Value)) :
    s.Exchanges (s.sent sql params result) [⟨⟨sql, params, endingOf result⟩, s.next⟩] [] := by
  refine ⟨rfl, ?_, ?_, [], by simp [sent], rfl⟩
  · simp [sent]
  · intro n x hx
    cases n with
    | zero =>
        cases hx
        simp [answer, next, List.head?_eq_getElem?]
    | succ n => simp at hx

/-- A statement that is executed is logged, too. -/
theorem executed_exchanges (s : Session) (e : Engine) (sql : String) (params : Template.Params)
    (result : Except Error (List Value)) :
    s.Exchanges (s.executed e sql params result)
      [⟨⟨Sql.normalize sql, params, endingOf result⟩, s.next⟩] [Sql.normalize sql] := by
  have hlog : s.Exchanges (s.logged (.executed e.loud (Sql.normalize sql))) [] [Sql.normalize sql] :=
    ⟨by simp [logged], by simp [logged], fun hx => by simp at hx, _, rfl, rfl⟩
  exact hlog.append (sent_exchanges _ _ _ _)

end Session
end SqlMapper
