import Mathlib.Data.List.Forall2
import SqlMapper.Proofs.Registry.Recovery
/-!
# SqlMapper.Proofs.Registry.Isolation

A waiter that is cancelled, or whose time is over, is nobody else's business (`waiter_isolation`). The registry
that it leaves is the one in which it would still wait, that waiter apart (`SameBut`), and everything that can
happen, and everything that clients do, keeps it so. Loads never look at waiters and a waiter never looks at
another one, so only actions on the waiter itself have to be looked at; and when somebody asks under its id again
there is no difference left (`SameBut.ask_eq`).
-/

namespace SqlMapper.Mapper

/-- Two waiters of one id that are the same, unless theirs is the given id. -/
def Waiter.SameBut (id : WaiterId) (v w : Waiter) : Prop := v.id = w.id ∧ (v.id ≠ id → v = w)

namespace Registry

/-- Two registries that are the same, up to what has become of the waiter of one id. -/
def SameBut (id : WaiterId) (r s : Registry) : Prop :=
  ∃ ws, List.Forall₂ (Waiter.SameBut id) r.waiters ws ∧ s = { r with waiters := ws }

/-! ### Lists of waiters -/

section Waiters

variable {id : WaiterId} {vs ws : List Waiter}

theorem ids_of_sameBut (h : List.Forall₂ (Waiter.SameBut id) vs ws) : ws.map (·.id) = vs.map (·.id) := by
  induction h with
  | nil => rfl
  | cons hhead _ ih => rw [List.map_cons, List.map_cons, ih, hhead.1]

/-- Every other waiter is found as it is. -/
theorem find?_of_sameBut (h : List.Forall₂ (Waiter.SameBut id) vs ws) {id' : WaiterId} (other : id' ≠ id) :
    ws.find? (·.id = id') = vs.find? (·.id = id') := by
  induction h with
  | nil => rfl
  | @cons v w vs ws hhead _ ih =>
      obtain ⟨hid, hsame⟩ := hhead
      by_cases hv : v.id = id'
      · have hvw : v = w := hsame (hv ▸ other)
        subst hvw
        rw [List.find?_cons_of_pos (by simpa using hv), List.find?_cons_of_pos (by simpa using hv)]
      · have hw : ¬ w.id = id' := hid ▸ hv
        rw [List.find?_cons_of_neg (by simpa using hw), List.find?_cons_of_neg (by simpa using hv), ih]

/-- Without the waiter the two lists are one. -/
theorem filter_of_sameBut (h : List.Forall₂ (Waiter.SameBut id) vs ws) :
    ws.filter (·.id ≠ id) = vs.filter (·.id ≠ id) := by
  induction h with
  | nil => rfl
  | @cons v w vs ws hhead _ ih =>
      obtain ⟨hid, hsame⟩ := hhead
      by_cases hv : v.id = id
      · have hw : w.id = id := hid ▸ hv
        rw [List.filter_cons_of_neg (by simpa using hw), List.filter_cons_of_neg (by simpa using hv), ih]
      · rw [← hsame hv, List.filter_cons_of_pos (by simpa using hv), List.filter_cons_of_pos (by simpa using hv),
          ih]

end Waiters

/-! ### Subscribing -/

theorem subscribe_of_isUnderWay {r : Registry} {i : Nat} (current : r.current = some i)
    (underWay : r.isUnderWay i = true) : r.subscribe = (r, i) := by
  unfold subscribe
  simp only [current, underWay, if_true]

theorem subscribe_of_not_isUnderWay {r : Registry}
    (idle : ∀ i, r.current = some i → r.isUnderWay i = false) : r.subscribe = (r.schedule, r.loads.length) := by
  unfold subscribe
  cases hc : r.current with
  | none => rfl
  | some i => simp [idle i hc]

theorem ask_of_isOpen {r : Registry} (unknown : r.phase.isOpen = true) (id : WaiterId) (q : Request) :
    r.ask id q = r.subscribe.1.addWaiter { id, request := q, waiting := .blocked r.subscribe.2 } :=
  if_pos unknown

theorem ask_of_not_isOpen {r : Registry} (known : ¬ r.phase.isOpen = true) (id : WaiterId) (q : Request) :
    r.ask id q = r.addWaiter { id, request := q, waiting := .answered (r.answer q) } :=
  if_neg known

theorem apply_wake_cases (r : Registry) (id : WaiterId) :
    r.apply (.wake id) = r ∨ ∃ a, r.apply (.wake id) = r.settleWaiter id a := by
  simp only [apply]
  cases (r.waiter? id).bind r.wakeAnswer? with
  | none => exact Or.inl rfl
  | some a => exact Or.inr ⟨a, rfl⟩

/-- A waiter is known by the same id after somebody has been told an answer. -/
theorem id_told (id : WaiterId) (a : Answer) (w : Waiter) :
    (if w.id = id ∧ w.load?.isSome then { w with waiting := .answered a } else w).id = w.id := by
  split <;> rfl

namespace SameBut

variable {id : WaiterId} {r s : Registry}

theorem refl (id : WaiterId) (r : Registry) : SameBut id r r :=
  ⟨r.waiters, List.forall₂_same.mpr fun _ _ => ⟨rfl, fun _ => rfl⟩, rfl⟩

/-! ### What is the same -/

theorem waiterIds_eq (h : SameBut id r s) : s.waiterIds = r.waiterIds := by
  obtain ⟨ws, hws, rfl⟩ := h
  exact ids_of_sameBut hws

theorem waiter?_eq (h : SameBut id r s) {id' : WaiterId} (other : id' ≠ id) :
    s.waiter? id' = r.waiter? id' := by
  obtain ⟨ws, hws, rfl⟩ := h
  exact find?_of_sameBut hws other

theorem answerOf?_eq (h : SameBut id r s) {id' : WaiterId} (other : id' ≠ id) :
    s.answerOf? id' = r.answerOf? id' := by
  unfold answerOf?
  rw [h.waiter?_eq other]

theorem phase_eq (h : SameBut id r s) : s.phase = r.phase := by
  obtain ⟨ws, -, rfl⟩ := h
  rfl

theorem limit_eq (h : SameBut id r s) : s.limit = r.limit := by
  obtain ⟨ws, -, rfl⟩ := h
  rfl

theorem loads_eq (h : SameBut id r s) : s.loads = r.loads := by
  obtain ⟨ws, -, rfl⟩ := h
  rfl

/-- A registry says the same, whoever waits. -/
theorem answer_eq (h : SameBut id r s) (q : Request) : s.answer q = r.answer q := by
  obtain ⟨ws, -, rfl⟩ := h
  rfl

/-- A waiter other than the given one has the same to notice. -/
theorem noticed_eq (h : SameBut id r s) {id' : WaiterId} (other : id' ≠ id) :
    (s.waiter? id').bind s.wakeAnswer? = (r.waiter? id').bind r.wakeAnswer? := by
  rw [h.waiter?_eq other]
  obtain ⟨ws, -, rfl⟩ := h
  rfl

/-! ### Waiters that come, and that are told something -/

theorem addWaiter (h : SameBut id r s) (w : Waiter) : SameBut id (r.addWaiter w) (s.addWaiter w) := by
  obtain ⟨ws, hws, rfl⟩ := h
  refine ⟨_, List.rel_append (List.rel_filter ?_ hws) (.cons ⟨rfl, fun _ => rfl⟩ .nil), rfl⟩
  intro v v' hv
  simp [hv.1]

/-- Who asks under the waiter's id takes its place, so nothing is left that differs. -/
theorem addWaiter_eq (h : SameBut id r s) {w : Waiter} (same : w.id = id) :
    s.addWaiter w = r.addWaiter w := by
  subst same
  obtain ⟨ws, hws, rfl⟩ := h
  exact congrArg (fun vs => { r with waiters := vs ++ [w] }) (filter_of_sameBut hws)

/-- A waiter may be told the same in both. -/
theorem settleWaiter (h : SameBut id r s) (id' : WaiterId) (a : Answer) :
    SameBut id (r.settleWaiter id' a) (s.settleWaiter id' a) := by
  obtain ⟨ws, hws, rfl⟩ := h
  refine ⟨_, List.rel_map ?_ hws, rfl⟩
  rintro v w ⟨hid, hsame⟩
  refine ⟨?_, fun hne => ?_⟩
  · rw [id_told, id_told]
    exact hid
  · rw [id_told] at hne
    rw [hsame hne]

/-- The waiter itself may be told anything, in the one as in the other. -/
theorem settleWaiter_right (h : SameBut id r s) (a : Answer) : SameBut id r (s.settleWaiter id a) := by
  obtain ⟨ws, hws, rfl⟩ := h
  refine ⟨_, List.forall₂_map_right_iff.mpr (hws.imp ?_), rfl⟩
  rintro v w ⟨hid, hsame⟩
  split
  case isTrue hw => exact ⟨hid, fun hne => absurd (hid.trans hw.1) hne⟩
  case isFalse => exact ⟨hid, hsame⟩

theorem settleWaiter_left (h : SameBut id r s) (a : Answer) : SameBut id (r.settleWaiter id a) s := by
  obtain ⟨ws, hws, rfl⟩ := h
  refine ⟨ws, List.forall₂_map_left_iff.mpr (hws.imp ?_), rfl⟩
  rintro v w ⟨hid, hsame⟩
  split
  case isTrue hv => exact ⟨hid, fun hne => absurd hv.1 hne⟩
  case isFalse => exact ⟨hid, hsame⟩

/-! ### Actions -/

/-- Whoever waits, the load to subscribe to is the same. -/
theorem subscribe (h : SameBut id r s) :
    SameBut id r.subscribe.1 s.subscribe.1 ∧ s.subscribe.2 = r.subscribe.2 := by
  obtain ⟨ws, hws, rfl⟩ := h
  by_cases idle : ∀ i, r.current = some i → r.isUnderWay i = false
  · rw [subscribe_of_not_isUnderWay idle, subscribe_of_not_isUnderWay (r := { r with waiters := ws }) idle]
    exact ⟨⟨ws, hws, rfl⟩, rfl⟩
  · simp only [not_forall, Bool.not_eq_false] at idle
    obtain ⟨i, current, underWay⟩ := idle
    rw [subscribe_of_isUnderWay current underWay,
      subscribe_of_isUnderWay (r := { r with waiters := ws }) current underWay]
    exact ⟨⟨ws, hws, rfl⟩, rfl⟩

theorem start (h : SameBut id r s) : SameBut id r.start s.start := by
  unfold Registry.start
  rw [h.phase_eq]
  split
  · exact h.subscribe.1
  · exact h

/-- Who asks is answered the same, or waits for the same load. -/
theorem ask (h : SameBut id r s) (id' : WaiterId) (q : Request) :
    SameBut id (r.ask id' q) (s.ask id' q) := by
  by_cases unknown : r.phase.isOpen = true
  · rw [ask_of_isOpen unknown, ask_of_isOpen (h.phase_eq ▸ unknown), h.subscribe.2]
    exact h.subscribe.1.addWaiter _
  · rw [ask_of_not_isOpen unknown, ask_of_not_isOpen (h.phase_eq ▸ unknown), h.answer_eq]
    exact h.addWaiter _

theorem ask_eq (h : SameBut id r s) (q : Request) : s.ask id q = r.ask id q := by
  by_cases unknown : r.phase.isOpen = true
  · rw [ask_of_isOpen unknown, ask_of_isOpen (h.phase_eq ▸ unknown), h.subscribe.2]
    exact h.subscribe.1.addWaiter_eq rfl
  · rw [ask_of_not_isOpen unknown, ask_of_not_isOpen (h.phase_eq ▸ unknown), h.answer_eq]
    exact h.addWaiter_eq rfl

/-- Any waiter may notice that its load is over. -/
theorem wake (h : SameBut id r s) (id' : WaiterId) :
    SameBut id (r.apply (.wake id')) (s.apply (.wake id')) := by
  by_cases hid : id' = id
  · subst hid
    -- whether it notices in both, in one or in neither
    have left : SameBut id' (r.apply (.wake id')) s := by
      rcases r.apply_wake_cases id' with hr | ⟨a, hr⟩
      · rwa [hr]
      · rw [hr]
        exact h.settleWaiter_left a
    rcases s.apply_wake_cases id' with hs | ⟨a, hs⟩
    · rwa [hs]
    · rw [hs]
      exact left.settleWaiter_right a
  · simp only [Registry.apply, h.noticed_eq hid]
    cases (r.waiter? id').bind r.wakeAnswer? with
    | none => exact h
    | some a => exact h.settleWaiter id' a

theorem elapse (h : SameBut id r s) (id' : WaiterId) :
    SameBut id (r.apply (.elapse id')) (s.apply (.elapse id')) := by
  have samePath : s.shownPath = r.shownPath := by
    obtain ⟨ws, -, rfl⟩ := h
    rfl
  simp only [Registry.apply, h.limit_eq, samePath]
  cases r.limit with
  | none => exact h
  | some l => exact h.settleWaiter id' _

/-- Whatever happens, it happens to both. -/
theorem apply (h : SameBut id r s) (a : Action) : SameBut id (r.apply a) (s.apply a) := by
  have sameLoad : ∀ i p, s.load? i p = r.load? i p := by
    intro i p
    unfold load?
    rw [h.loads_eq]
  cases a with
  | start => exact h.start
  | ask id' q => exact h.ask id' q
  | wake id' => exact h.wake id'
  | cancel id' => exact h.settleWaiter id' .cancelled
  | elapse id' => exact h.elapse id'
  | nextLoop =>
      obtain ⟨ws, -, rfl⟩ := h
      exact refl id r.nextLoop
  | reach | edit =>
      obtain ⟨ws, hws, rfl⟩ := h
      exact ⟨ws, hws, rfl⟩
  -- what happens to a load does not depend on who waits for it
  | enter i | stop i =>
      simp only [Registry.apply, sameLoad]
      split
      · obtain ⟨ws, hws, rfl⟩ := h
        exact ⟨ws, hws, rfl⟩
      · exact h
  | finish i =>
      have sameReachable : s.reachable = r.reachable := by
        obtain ⟨ws, -, rfl⟩ := h
        rfl
      simp only [Registry.apply, sameLoad, sameReachable]
      split
      · split
        · obtain ⟨ws, hws, rfl⟩ := h
          exact ⟨ws, hws, rfl⟩
        · exact h
      · exact h
  | cancelLoad =>
      have sameCurrent : s.current = r.current := by
        obtain ⟨ws, -, rfl⟩ := h
        rfl
      simp only [Registry.apply, sameLoad, sameCurrent]
      split
      · exact h
      · split
        · obtain ⟨ws, hws, rfl⟩ := h
          exact ⟨ws, hws, rfl⟩
        · exact h

theorem run (h : SameBut id r s) (as : List Action) : SameBut id (r.run as) (s.run as) := by
  induction as generalizing r s with
  | nil => exact h
  | cons a as ih =>
      rw [run_cons, run_cons]
      exact ih (h.apply a)

/-! ### Steps -/

theorem loadNumbers_eq (h : SameBut id r s) : s.loadNumbers = r.loadNumbers := by
  unfold loadNumbers
  rw [h.loads_eq]

theorem settle (h : SameBut id r s) : SameBut id r.settle s.settle := by
  rw [settle_eq_run, settle_eq_run]
  unfold loadActions
  rw [h.waiterIds_eq, h.loadNumbers_eq]
  exact h.run _

theorem request (h : SameBut id r s) (id' : WaiterId) (q : Request) :
    SameBut id (r.request id' q) (s.request id' q) := by
  have asked := h.apply (.ask id' q)
  unfold Registry.request
  rw [h.limit_eq]
  cases r.limit with
  | none => exact asked
  | some l =>
      dsimp only
      rw [asked.loadNumbers_eq]
      split
      · exact (asked.apply (.elapse id')).run _
      · exact asked

theorem request_eq (h : SameBut id r s) (q : Request) : s.request id q = r.request id q := by
  have asked : s.apply (.ask id q) = r.apply (.ask id q) := h.ask_eq q
  unfold Registry.request
  rw [h.limit_eq, asked]

/-- A waiter other than the given one waits for its answer the same. -/
theorem await (h : SameBut id r s) {id' : WaiterId} (other : id' ≠ id) :
    SameBut id (r.await id') (s.await id') := by
  have settled := h.settle
  unfold Registry.await
  rw [h.answerOf?_eq other]
  split
  · exact h
  · dsimp only
    rw [settled.answerOf?_eq other, settled.waiterIds_eq]
    split
    · exact settled
    · exact (settled.run _).settle

theorem obtain (h : SameBut id r s) (q : Request) : SameBut id (r.obtain q) (s.obtain q) := by
  unfold Registry.obtain
  by_cases hid : id = .caller
  · subst hid
    rw [h.request_eq]
    exact refl _ _
  · exact (h.request .caller q).await (Ne.symm hid)

/-- Whatever clients do, they do it to both, as long as nobody waits for the waiter itself. -/
theorem perform (h : SameBut id r s) {step : Step} (other : step ≠ .await id) :
    SameBut id (r.perform step) (s.perform step) := by
  cases step with
  | act a => exact h.apply a
  | settle => exact h.settle
  | request id' q => exact h.request id' q
  | obtain q => exact h.obtain q
  | await id' =>
      have hid : id' ≠ id := fun heq => other (heq ▸ rfl)
      show SameBut id (if (r.waiter? id').isSome then r.await id' else r)
        (if (s.waiter? id').isSome then s.await id' else s)
      rw [h.waiter?_eq hid]
      split
      · exact h.await hid
      · exact h

theorem performAll (h : SameBut id r s) {steps : List Step} (others : .await id ∉ steps) :
    SameBut id (r.performAll steps) (s.performAll steps) := by
  induction steps generalizing r s with
  | nil => exact h
  | cons step steps ih =>
      obtain ⟨hne, hrest⟩ := not_or.mp (List.mem_cons.not.mp others)
      exact ih (h.perform (Ne.symm hne)) hrest

end SameBut

/-! ### Waiters that give up -/

/-- A waiter that is cancelled, or whose time is over, is told something. -/
theorem sameBut_of_gives_up (r : Registry) {id : WaiterId} {act : Action}
    (gives_up : act = .cancel id ∨ act = .elapse id) : SameBut id r (r.apply act) := by
  have same := SameBut.refl id r
  rcases gives_up with rfl | rfl
  · exact same.settleWaiter_right .cancelled
  · simp only [apply]
    cases r.limit with
    | none => exact same
    | some l => exact same.settleWaiter_right _

/-- **Isolation.** A waiter that is cancelled, or whose time is over, learns that and nothing else. Everything
else is as it was: what is known of the document, the loads and the one that is current, the log, and every other
waiter. Whatever happens afterwards, in whatever order, happens as if the waiter still waited: every other waiter,
and everybody who asks later, is told the same. If somebody asks under the waiter's own id, nothing at all tells
the two registries apart from then on. The same is true of whatever clients do, apart from waiting for the
waiter's own answer, which takes time only as long as there is none. -/
theorem waiter_isolation (template : Option String) (limit : Option Limit) (loading : String → Loading)
    (reachable : Bool) (as : List Action) {w : Waiter} {i : Nat}
    (waits : w ∈ ((Registry.new template limit loading reachable).run as).waiters)
    (blocked : w.waiting = .blocked i) :
    let r := (Registry.new template limit loading reachable).run as
    (r.apply (.cancel w.id)).answerOf? w.id = some .cancelled ∧
      (∀ l, r.limit = some l →
        (r.apply (.elapse w.id)).answerOf? w.id = some (.refused (.notReady r.shownPath l.seconds))) ∧
      ∀ act, act = .cancel w.id ∨ act = .elapse w.id →
        let s := r.apply act
        (s = { r with waiters := s.waiters } ∧ s.waiterIds = r.waiterIds ∧
          ∀ id, id ≠ w.id → s.waiter? id = r.waiter? id) ∧
        (∀ acts, SameBut w.id (r.run acts) (s.run acts) ∧
          ∀ id, id ≠ w.id → (s.run acts).answerOf? id = (r.run acts).answerOf? id) ∧
        (∀ acts q, (s.run acts).apply (.ask w.id q) = (r.run acts).apply (.ask w.id q)) ∧
        ∀ steps, .await w.id ∉ steps → SameBut w.id (r.performAll steps) (s.performAll steps) ∧
          ∀ q, (s.performAll steps).request w.id q = (r.performAll steps).request w.id q := by
  intro r
  have h : r.Consistent := (Consistent.new template limit loading reachable).run as
  have found : r.waiter? w.id = some w := h.waiter?_of_mem waits
  refine ⟨answerOf?_settleWaiter found blocked .cancelled, ?_, ?_⟩
  · intro l hl
    simp only [apply, hl]
    exact answerOf?_settleWaiter found blocked _
  · intro act gives_up s
    have same : SameBut w.id r s := r.sameBut_of_gives_up gives_up
    refine ⟨⟨?_, same.waiterIds_eq, fun id other => same.waiter?_eq other⟩, ?_, ?_, ?_⟩
    · obtain ⟨ws, -, hs⟩ := same
      rw [hs]
    · exact fun acts => ⟨same.run acts, fun id other => (same.run acts).answerOf?_eq other⟩
    · exact fun acts q => (same.run acts).ask_eq q
    · exact fun steps others => ⟨same.performAll others, (same.performAll others).request_eq⟩

/-- Two wait for a load, and one of them gives up; the other one is told the statements all the same. -/
theorem waiter_isolation_of_two :
    let r := (Registry.new (some "a.xml") (some ⟨"0.5", false⟩) (fun _ => .silent (.ok [])) false).run
      [.ask (.task "w") .table, .ask (.task "v") .table, .enter 0]
    let w : Waiter := { id := .task "w", request := .table, waiting := .blocked 0 }
    let rest := [.reach, .finish 0, .wake (.task "v")]
    w ∈ r.waiters ∧ w.waiting = .blocked 0 ∧
      (r.apply (.elapse w.id)).answerOf? w.id = some (.refused (.notReady r.shownPath "0.5")) ∧
      ((r.apply (.elapse w.id)).run rest).answerOf? (.task "v") = (r.run rest).answerOf? (.task "v") ∧
      (r.run rest).answerOf? (.task "v") = some (.table []) := by
  intro r w rest
  have waits : w ∈ r.waiters := List.mem_cons_self
  obtain ⟨-, late, isolated⟩ := waiter_isolation (some "a.xml") (some ⟨"0.5", false⟩)
    (fun _ => .silent (.ok [])) false [.ask (.task "w") .table, .ask (.task "v") .table, .enter 0] waits rfl
  obtain ⟨-, others, -, -⟩ := isolated (.elapse w.id) (.inr rfl)
  exact ⟨waits, rfl, late ⟨"0.5", false⟩ rfl, (others rest).2 (.task "v") (by decide), rfl⟩

end Registry
end SqlMapper.Mapper
