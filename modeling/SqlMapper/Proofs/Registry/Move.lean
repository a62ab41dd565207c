import SqlMapper.Mapper.Registry
/-!
# SqlMapper.Proofs.Registry.Move

What an action can make of a registry (`Move`), with the conditions under which it does so. Every action
makes such a move (`apply_move`), so a property that each move keeps is kept by every run (`run_keeps`),
and nothing that is proved about runs has to look into the single operations again.

The operations that clients call are runs as well: asking and waiting for the answer is an ask, with actions behind it
that neither ask nor edit (`obtain_eq_ask_run` and the lemmas before it).
-/

namespace SqlMapper.Mapper

/-- Does an action neither ask nor edit the document? -/
def Action.isInternal : Action → Bool
  | .ask .. | .edit _ => false
  | _ => true

namespace Registry

/-! ### Reading the state -/

theorem load?_eq_some {r : Registry} {i : Nat} {p : Progress} {l : Load} :
    r.load? i p = some l ↔ r.loads[i]? = some l ∧ l.progress = p := by
  unfold load?
  rw [Option.filter_eq_some_iff]
  simp

theorem isUnderWay_iff {r : Registry} {i : Nat} :
    r.isUnderWay i = true ↔
      ∃ l, r.loads[i]? = some l ∧ l.loop = r.loop ∧ l.progress.isOver = false := by
  unfold isUnderWay
  cases r.loads[i]? with
  | none => simp
  | some l => simp

theorem isOpen_iff {p : Phase} : p.isOpen = true ↔ p = .uninitialized := by
  cases p <;> simp [Phase.isOpen]

theorem mem_of_waiter? {r : Registry} {id : WaiterId} {w : Waiter} (h : r.waiter? id = some w) :
    w ∈ r.waiters ∧ w.id = id := by
  unfold waiter? at h
  refine ⟨List.mem_of_find?_eq_some h, ?_⟩
  simpa using List.find?_some h

/-- Which load a new waiter gets: the current one while it is under way, else a new one. -/
theorem subscribe_cases (r : Registry) :
    (∃ i, r.current = some i ∧ r.isUnderWay i = true ∧ r.subscribe = (r, i)) ∨
      ((∀ i, r.current = some i → r.isUnderWay i = false) ∧
        r.subscribe = (r.schedule, r.loads.length)) := by
  unfold subscribe
  cases hc : r.current with
  | none => exact Or.inr ⟨by simp, rfl⟩
  | some i =>
      by_cases hu : r.isUnderWay i = true
      · exact Or.inl ⟨i, rfl, hu, by simp [hu]⟩
      · refine Or.inr ⟨?_, by simp [hu]⟩
        intro j hj
        cases hj
        simpa using hu

/-! ### Moves -/

/-- Does somebody who asks now set a load going? -/
def NeedsLoad (r : Registry) : Prop :=
  r.phase = .uninitialized ∧ ∀ i, r.current = some i → r.isUnderWay i = false

/-- What a blocked waiter may be told. -/
inductive Due (r : Registry) (id : WaiterId) : Answer → Prop
  | cancelled : Due r id .cancelled
  | late {l : Limit} (limited : r.limit = some l) :
      Due r id (.refused (.notReady r.shownPath l.seconds))
  /-- Its load has ended, and it looks at the registry again. -/
  | known {w : Waiter} {i : Nat} {l : Load} (found : r.waiter? id = some w)
      (blocked : w.waiting = .blocked i) (load : r.loads[i]? = some l)
      (ended : l.progress = .ended) : Due r id (r.answer w.request)

/-- What an action can make of a registry. -/
inductive Move (r : Registry) : Action → Registry → Prop
  | rest (act : Action) : Move r act r
  | schedule (need : r.NeedsLoad) : Move r .start r.schedule
  /-- Somebody waits for the load that is under way. -/
  | join (id : WaiterId) (q : Request) {i : Nat} (unknown : r.phase = .uninitialized)
      (current : r.current = some i) (underWay : r.isUnderWay i = true) :
      Move r (.ask id q) (r.addWaiter { id, request := q, waiting := .blocked i })
  /-- Somebody waits for a new load. -/
  | demand (id : WaiterId) (q : Request) (need : r.NeedsLoad) :
      Move r (.ask id q)
        (r.schedule.addWaiter { id, request := q, waiting := .blocked r.loads.length })
  | reply (id : WaiterId) (q : Request) (known : r.phase ≠ .uninitialized) :
      Move r (.ask id q) (r.addWaiter { id, request := q, waiting := .answered (r.answer q) })
  | enter {i : Nat} {l : Load} (load : r.loads[i]? = some l) (pending : l.progress = .pending) :
      Move r (.enter i) (r.setLoad i { l with begun := true })
  | reach : Move r .reach { r with reachable := true }
  | edit (loading : Loading) : Move r (.edit loading) { r with loading }
  | finish {i : Nat} {l : Load} (load : r.loads[i]? = some l) (pending : l.progress = .pending)
      (begun : l.begun = true) (reachable : r.reachable = true) :
      Move r (.finish i) (r.finish i l)
  | halt {i : Nat} {l : Load} (load : r.loads[i]? = some l) (pending : l.progress = .pending) :
      Move r .cancelLoad (r.setLoad i { l with progress := .stopping })
  | drop {i : Nat} {l : Load} (load : r.loads[i]? = some l) (stopping : l.progress = .stopping) :
      Move r (.stop i) (r.drop i l)
  | settle {act : Action} (id : WaiterId) {a : Answer}
      (told : act = .wake id ∨ act = .cancel id ∨ act = .elapse id) (due : r.Due id a) :
      Move r act (r.settleWaiter id a)
  | nextLoop : Move r .nextLoop r.nextLoop

theorem start_move (r : Registry) : Move r .start r.start := by
  unfold start
  by_cases ho : r.phase.isOpen = true
  · rw [if_pos ho]
    rcases r.subscribe_cases with ⟨i, -, -, hs⟩ | ⟨hn, hs⟩
    · rw [hs]
      exact .rest _
    · rw [hs]
      exact .schedule ⟨isOpen_iff.mp ho, hn⟩
  · rw [if_neg ho]
    exact .rest _

theorem ask_move (r : Registry) (id : WaiterId) (q : Request) : Move r (.ask id q) (r.ask id q) := by
  unfold ask
  by_cases ho : r.phase.isOpen = true
  · have hp := isOpen_iff.mp ho
    rw [if_pos ho]
    rcases r.subscribe_cases with ⟨i, hc, hu, hs⟩ | ⟨hn, hs⟩
    · rw [hs]
      exact .join id q hp hc hu
    · rw [hs]
      exact .demand id q ⟨hp, hn⟩
  · rw [if_neg ho]
    exact .reply id q fun hp => ho (isOpen_iff.mpr hp)

/-- What a waiter that notices the end of its load is told is due to it. -/
theorem due_of_wakeAnswer? {r : Registry} {id : WaiterId} {a : Answer}
    (h : (r.waiter? id).bind r.wakeAnswer? = some a) : r.Due id a := by
  obtain ⟨w, hw, ha⟩ := Option.bind_eq_some_iff.mp h
  unfold wakeAnswer? at ha
  split at ha
  case _ l hl =>
      obtain ⟨i, hi, hl⟩ := Option.bind_eq_some_iff.mp hl
      have hb : w.waiting = .blocked i := by
        unfold Waiter.load? at hi
        split at hi
        case _ j hj =>
            cases hi
            exact hj
        case _ => cases hi
      split at ha
      case _ he =>
          cases ha
          exact .known hw hb hl he
      case _ =>
          cases ha
          exact .cancelled
      case _ => cases ha
  case _ => cases ha

/-- Every action is a move. -/
theorem apply_move (r : Registry) (a : Action) : Move r a (r.apply a) := by
  cases a with
  | start => exact r.start_move
  | ask id q => exact r.ask_move id q
  | enter i =>
      simp only [apply]
      split
      case _ l hl =>
          obtain ⟨hl, hp⟩ := load?_eq_some.mp hl
          exact .enter hl hp
      case _ => exact .rest _
  | reach => exact .reach
  | edit loading => exact .edit loading
  | finish i =>
      simp only [apply]
      split
      case _ l hl =>
          obtain ⟨hl, hb⟩ := Option.filter_eq_some_iff.mp hl
          obtain ⟨hl, hp⟩ := load?_eq_some.mp hl
          by_cases hr : r.reachable = true
          · rw [if_pos hr]
            exact .finish hl hp hb hr
          · rw [if_neg hr]
            exact .rest _
      case _ => exact .rest _
  | cancelLoad =>
      simp only [apply]
      split
      case _ => exact .rest _
      case _ i _ =>
          split
          case _ l hl =>
              obtain ⟨hl, hp⟩ := load?_eq_some.mp hl
              exact .halt hl hp
          case _ => exact .rest _
  | stop i =>
      simp only [apply]
      split
      case _ l hl =>
          obtain ⟨hl, hs⟩ := load?_eq_some.mp hl
          exact .drop hl hs
      case _ => exact .rest _
  | wake id =>
      simp only [apply]
      split
      case _ a ha => exact .settle id (.inl rfl) (due_of_wakeAnswer? ha)
      case _ => exact .rest _
  | cancel id => exact .settle id (.inr (.inl rfl)) .cancelled
  | elapse id =>
      simp only [apply]
      split
      case _ l hl => exact .settle id (.inr (.inr rfl)) (.late hl)
      case _ => exact .rest _
  | nextLoop => exact .nextLoop

/-! ### Runs -/

@[simp] theorem run_nil (r : Registry) : r.run [] = r := rfl

@[simp] theorem run_cons (r : Registry) (a : Action) (as : List Action) :
    r.run (a :: as) = (r.apply a).run as := rfl

theorem run_append (r : Registry) (as bs : List Action) :
    r.run (as ++ bs) = (r.run as).run bs := by
  unfold run
  rw [List.foldl_append]

/-- What every move keeps, every run keeps. -/
theorem run_keeps {P : Registry → Prop}
    (keep : ∀ {r r' : Registry} {a : Action}, P r → Move r a r' → P r')
    {r : Registry} (h : P r) (as : List Action) : P (r.run as) := by
  induction as generalizing r with
  | nil => exact h
  | cons a as ih =>
      rw [run_cons]
      exact ih (keep h (r.apply_move a))

/-! ### What clients do, as runs -/

theorem settle_eq_run (r : Registry) :
    r.settle = r.run (r.loadActions ++ r.waiterIds.map .wake) := by
  rw [run_append]
  rfl

/-- Letting happen what can happen by itself. -/
theorem settle_eq_internal_run (r : Registry) : ∃ as, (∀ a ∈ as, a.isInternal = true) ∧ r.settle = r.run as := by
  refine ⟨_, ?_, r.settle_eq_run⟩
  unfold loadActions
  simp only [List.forall_mem_append, List.forall_mem_map]
  exact ⟨⟨⟨fun _ _ => rfl, fun _ _ => rfl⟩, fun _ _ => rfl⟩, fun _ _ => rfl⟩

/-- Who is in no haste only asks. -/
theorem request_of_patient {r : Registry} (patient : ∀ l, r.limit = some l → l.immediate = false) (id : WaiterId)
    (q : Request) : r.request id q = r.apply (.ask id q) := by
  unfold request
  split
  · next l hl => rw [patient l hl, if_neg Bool.false_ne_true]
  · rfl

theorem request_eq_ask_run (r : Registry) (id : WaiterId) (q : Request) :
    ∃ as, (∀ a ∈ as, a.isInternal = true) ∧ r.request id q = (r.apply (.ask id q)).run as := by
  unfold request
  cases r.limit with
  | none => exact ⟨[], by simp, rfl⟩
  | some l =>
      by_cases hi : l.immediate = true
      · refine ⟨.elapse id :: (r.apply (.ask id q)).loadNumbers.map .enter, ?_, by simp [hi]⟩
        exact List.forall_mem_cons.mpr ⟨rfl, List.forall_mem_map.mpr fun _ _ => rfl⟩
      · exact ⟨[], by simp, by simp [hi]⟩

theorem await_eq_internal_run (r : Registry) (id : WaiterId) :
    ∃ as, (∀ a ∈ as, a.isInternal = true) ∧ r.await id = r.run as := by
  obtain ⟨as, has, hsettle⟩ := r.settle_eq_internal_run
  unfold await
  by_cases ha : (r.answerOf? id).isSome = true
  · exact ⟨[], by simp, by rw [if_pos ha, run_nil]⟩
  · rw [if_neg ha]
    by_cases hs : (r.settle.answerOf? id).isSome = true
    · exact ⟨as, has, by rw [if_pos hs, hsettle]⟩
    · let late := (r.settle.waiterIds.takeWhile (· ≠ id) ++ [id]).map Action.elapse
      obtain ⟨bs, hbs, hend⟩ := (r.settle.run late).settle_eq_internal_run
      refine ⟨as ++ late ++ bs, ?_, ?_⟩
      · simp only [List.forall_mem_append]
        exact ⟨⟨has, List.forall_mem_map.mpr fun _ _ => rfl⟩, hbs⟩
      · rw [if_neg hs, run_append, run_append, ← hsettle, ← hend]

/-- Asking and waiting for the answer, as a run. -/
theorem obtain_eq_ask_run (r : Registry) (q : Request) :
    ∃ as, (∀ a ∈ as, a.isInternal = true) ∧ r.obtain q = (r.apply (.ask .caller q)).run as := by
  obtain ⟨as, has, hrequest⟩ := r.request_eq_ask_run .caller q
  obtain ⟨bs, hbs, hawait⟩ := (r.request .caller q).await_eq_internal_run .caller
  refine ⟨as ++ bs, by simpa only [List.forall_mem_append] using ⟨has, hbs⟩, ?_⟩
  rw [obtain, hawait, hrequest, run_append]

end Registry

end SqlMapper.Mapper
