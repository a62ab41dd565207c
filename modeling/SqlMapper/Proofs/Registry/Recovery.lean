import SqlMapper.Proofs.Registry.Past
import SqlMapper.Proofs.Registry.Agreement
import SqlMapper.Proofs.Registry.WakeUp
/-!
# SqlMapper.Proofs.Registry.Recovery

A registry whose loads have all been cancelled is as good as new (`recovery`). Whatever clients do next and
in whatever order it happens, they cannot tell it from a registry that has just been made for the same
document: it is a new registry with a past (`Past.IsBehind`), and every step keeps it one. Only the number of
loads there have been, and what was logged before, tell them apart.

Clients do more than single actions: they settle, wait and obtain (`Step`). Which actions these come to
depends on the loads and waiters there are, those of the past included, so the steps of the two registries are
compared and not just their actions.
-/

namespace SqlMapper.Mapper

/-- What clients do, and what happens in between. -/
inductive Step
  | act (a : Action)
  | settle
  | request (id : WaiterId) (q : Request)
  /-- Wait for the answer of a waiter, if there is such a waiter. -/
  | await (id : WaiterId)
  | obtain (q : Request)

namespace Step

/-- A step as a registry sees it that does not have the first `n` loads; none if it is an action on one of
these. -/
def since? (n : Nat) : Step → Option Step
  | act a => (a.since? n).map act
  | s => some s

/-- A step of a registry that does not have the first `n` loads, as one sees it that has them. -/
def later (n : Nat) : Step → Step
  | act a => act (a.later n)
  | s => s

@[simp] theorem since?_later (n : Nat) (step : Step) : (step.later n).since? n = some step := by
  cases step <;> simp [later, since?]

theorem filterMap_since?_later (n : Nat) (steps : List Step) :
    (steps.map (later n)).filterMap (since? n) = steps := by
  rw [List.filterMap_map, show (since? n ∘ later n) = some from funext (since?_later n)]
  exact List.filterMap_some

end Step

namespace Registry

/-- The name of the task that waits, if one does. -/
def pendingTask? (w : Waiter) : Option String :=
  match w.id, w.waiting with
  | .task name, .blocked _ => some name
  | _, _ => none

/-- One step. -/
def perform (r : Registry) : Step → Registry
  | .act a => r.apply a
  | .settle => r.settle
  | .request id q => r.request id q
  | .await id => if (r.waiter? id).isSome then r.await id else r
  | .obtain q => r.obtain q

/-- Steps one after the other. -/
def performAll (r : Registry) (steps : List Step) : Registry := steps.foldl perform r

/-- What clients can tell of two registries is the same, the second of which has not been through what the
registry `before` has: what is known of the document, what its waiters are told and who still waits, and,
apart from what there was before, the log and the number of loads that have begun. A waiter that is left from
before is known to the first alone, until somebody asks under its id. -/
structure Alike (before r s : Registry) : Prop where
  phase : r.phase = s.phase
  answers : ∀ id, id ∈ s.waiterIds ∨ id ∉ before.waiterIds → r.answerOf? id = s.answerOf? id
  pending : r.pendingTasks = s.pendingTasks
  events : r.events = before.events ++ s.events
  loadsBegun : r.loadsBegun = before.loadsBegun + s.loadsBegun

end Registry

namespace Past

/-- A registry is another one with a past. -/
def IsBehind (p : Past) (r s : Registry) : Prop :=
  ∃ gone, Registry.Left p gone s ∧ r = s.after p gone

namespace IsBehind

open Registry

variable {p : Past} {r s : Registry}

/-! ### What can be told -/

theorem limit_eq (h : p.IsBehind r s) : r.limit = s.limit := by
  obtain ⟨gone, -, rfl⟩ := h
  rfl

theorem length_loads (h : p.IsBehind r s) : r.loads.length = p.loads.length + s.loads.length := by
  obtain ⟨gone, -, rfl⟩ := h
  exact length_after p gone s

/-- The registry has some more waiters, which are left from the past. -/
theorem waiterIds_eq (h : p.IsBehind r s) :
    ∃ ids, r.waiterIds = ids ++ s.waiterIds ∧ ∀ id ∈ ids, id ∉ s.waiterIds := by
  obtain ⟨gone, left, rfl⟩ := h
  refine ⟨gone.map (·.id), waiterIds_after p gone s, ?_⟩
  intro id hid
  obtain ⟨w, hw, rfl⟩ := List.mem_map.mp hid
  exact left.apart w hw

theorem waiter?_eq (h : p.IsBehind r s) {id : WaiterId}
    (own : id ∈ s.waiterIds ∨ id ∉ p.waiters.map (·.id)) :
    r.waiter? id = (s.waiter? id).map p.waiter := by
  obtain ⟨gone, left, rfl⟩ := h
  refine waiter?_after p gone s fun w hw hid => ?_
  rcases own with own | own
  · exact left.apart w hw (hid ▸ own)
  · exact own (List.mem_map.mpr ⟨w, left.sublist.subset hw, hid⟩)

theorem answerOf?_eq (h : p.IsBehind r s) {id : WaiterId}
    (own : id ∈ s.waiterIds ∨ id ∉ p.waiters.map (·.id)) : r.answerOf? id = s.answerOf? id := by
  unfold answerOf?
  rw [h.waiter?_eq own, Option.bind_map]
  exact Option.bind_congr fun w _ => p.answer?_waiter w

theorem pendingTask?_waiter (p : Past) (w : Waiter) :
    pendingTask? (p.waiter w) = pendingTask? w := by
  obtain ⟨id, q, waiting⟩ := w
  cases id <;> cases waiting <;> rfl

theorem pendingTasks_eq (h : p.IsBehind r s) : r.pendingTasks = s.pendingTasks := by
  obtain ⟨gone, left, rfl⟩ := h
  have none_past : gone.filterMap pendingTask? = [] := by
    rw [List.filterMap_eq_nil_iff]
    intro w hw
    have answered := left.answered hw
    unfold Waiter.load? at answered
    unfold pendingTask?
    cases hwaiting : w.waiting with
    | blocked i => simp [hwaiting] at answered
    | answered a => cases w.id <;> rfl
  have own : (s.waiters.map p.waiter).filterMap pendingTask? = s.waiters.filterMap pendingTask? := by
    rw [List.filterMap_map]
    exact List.filterMap_congr fun w _ => pendingTask?_waiter p w
  show Template.sortNames ((gone ++ s.waiters.map p.waiter).filterMap pendingTask?) =
    Template.sortNames (s.waiters.filterMap pendingTask?)
  rw [List.filterMap_append, none_past, own, List.nil_append]

theorem loadsBegun_eq (h : p.IsBehind r s) :
    r.loadsBegun = p.loads.countP (·.begun) + s.loadsBegun := by
  obtain ⟨gone, -, rfl⟩ := h
  show (p.loads ++ s.loads.map p.load).countP (·.begun) = _
  rw [List.countP_append, List.countP_map]
  rfl

/-- Clients cannot tell a registry from one without its past. -/
theorem alike (h : p.IsBehind r s) {before : Registry} (loads : before.loads = p.loads)
    (events : before.events = p.events) (waiters : before.waiters = p.waiters) :
    Alike before r s where
  phase := by
    obtain ⟨gone, -, rfl⟩ := h
    rfl
  answers id own := by
    refine h.answerOf?_eq (own.imp_right fun hid => ?_)
    rwa [← waiters]
  pending := h.pendingTasks_eq
  events := by
    obtain ⟨gone, -, rfl⟩ := h
    rw [events]
    rfl
  loadsBegun := by
    rw [h.loadsBegun_eq, ← loads]
    rfl

/-! ### Actions -/

theorem apply (h : p.IsBehind r s) (a : Action) :
    p.IsBehind (r.apply (a.later p.loads.length)) (s.apply a) := by
  obtain ⟨gone, left, rfl⟩ := h
  exact ⟨a.leaves gone, left.apply a, apply_after left a⟩

/-- An action on a load of the past changes nothing. -/
theorem apply_of_past (h : p.IsBehind r s) {a : Action} (past : a.since? p.loads.length = none) :
    p.IsBehind (r.apply a) s := by
  obtain ⟨gone, left, rfl⟩ := h
  rw [apply_after_of_past past]
  exact ⟨gone, left, rfl⟩

theorem run (h : p.IsBehind r s) (as : List Action) :
    p.IsBehind (r.run as) (s.run (as.filterMap (Action.since? p.loads.length))) := by
  induction as generalizing r s with
  | nil => exact h
  | cons a as ih =>
      rw [run_cons]
      obtain ⟨-, past⟩ | ⟨b, rfl, hb⟩ := a.since?_cases p.loads.length
      · rw [List.filterMap_cons_none past]
        exact ih (h.apply_of_past past)
      · rw [List.filterMap_cons_some hb, run_cons]
        exact ih (h.apply b)

/-! ### Actions on all loads and on all waiters -/

/-- What is done to each load is done to those that came after the past. -/
theorem filterMap_loadNumbers (h : p.IsBehind r s) {act : Nat → Action}
    (numbered : ∀ n i, (act i).since? n = if n ≤ i then some (act (i - n)) else none) :
    (r.loadNumbers.map act).filterMap (Action.since? p.loads.length) = s.loadNumbers.map act := by
  have first : ∀ i ∈ List.range p.loads.length,
      (Action.since? p.loads.length ∘ act) i = none := by
    intro i hi
    rw [Function.comp_apply, numbered, if_neg (Nat.not_le.mpr (List.mem_range.mp hi))]
  unfold loadNumbers
  rw [h.length_loads, List.range_add, List.filterMap_map, List.filterMap_append,
    List.filterMap_eq_nil_iff.mpr first, List.nil_append, List.filterMap_map, ← List.filterMap_eq_map]
  refine List.filterMap_congr fun i _ => ?_
  simp [numbered]

theorem run_loadNumbers (h : p.IsBehind r s) (act : Nat → Action)
    (numbered : ∀ n i, (act i).since? n = if n ≤ i then some (act (i - n)) else none) {r' s' : Registry}
    (h' : p.IsBehind r' s') :
    p.IsBehind (r'.run (r.loadNumbers.map act)) (s'.run (s.loadNumbers.map act)) := by
  rw [← h.filterMap_loadNumbers numbered]
  exact h'.run _

/-- What is done to waiters, and is nothing to those that there are not, may be done to waiters of the past
as well. -/
theorem run_waiters (h : p.IsBehind r s) {act : WaiterId → Action}
    (same : ∀ n id, (act id).since? n = some (act id))
    (idle : ∀ (t : Registry) id, id ∉ t.waiterIds → t.apply (act id) = t)
    {past : List WaiterId} (strangers : ∀ id ∈ past, id ∉ s.waiterIds) (ids : List WaiterId) :
    p.IsBehind (r.run ((past ++ ids).map act)) (s.run (ids.map act)) := by
  have nothing : s.run (past.map act) = s := by
    induction past with
    | nil => rfl
    | cons id past ih =>
        rw [List.map_cons, run_cons, idle s id (strangers id List.mem_cons_self)]
        exact ih fun id' hid => strangers id' (List.mem_cons_of_mem id hid)
  have all := h.run ((past ++ ids).map act)
  rw [List.filterMap_map, show Action.since? p.loads.length ∘ act = some ∘ act from
    funext fun id => same _ id, ← List.filterMap_map, List.filterMap_some] at all
  rwa [show s.run ((past ++ ids).map act) = s.run (ids.map act) by
    rw [List.map_append, run_append, nothing]] at all

theorem apply_wake_of_not_mem (t : Registry) (id : WaiterId) (h : id ∉ t.waiterIds) :
    t.apply (.wake id) = t := by
  have nothing : (t.waiter? id).bind t.wakeAnswer? = none := unmoved_of_not_mem h
  simp only [Registry.apply, nothing]

theorem apply_elapse_of_not_mem (t : Registry) (id : WaiterId) (h : id ∉ t.waiterIds) :
    t.apply (.elapse id) = t := by
  have same : ∀ a, t.settleWaiter id a = t := by
    intro a
    have waiters : t.waiters.map (fun w =>
        if w.id = id ∧ w.load?.isSome then { w with waiting := .answered a } else w) = t.waiters := by
      refine (List.map_congr_left fun w hw => ?_).trans (List.map_id _)
      rw [if_neg]
      · rfl
      · rintro ⟨hid, -⟩
        exact h (List.mem_map.mpr ⟨w, hw, hid⟩)
    unfold settleWaiter
    rw [waiters]
  simp only [Registry.apply]
  split
  case _ => exact same _
  case _ => rfl

/-! ### Steps -/

theorem waiterIds_settle (t : Registry) : t.settle.waiterIds = t.waiterIds := by
  rw [settle_eq_run, run_append]
  have wakes := spontaneous_map (.wake ·) (fun _ => rfl) t.waiterIds
  rw [((t.run t.loadActions).frame_of_spontaneous_run wakes).2.1,
    (t.frame_of_spontaneous_run t.loadActions_spontaneous).2.1]

theorem settle (h : p.IsBehind r s) : p.IsBehind r.settle s.settle := by
  have entered := h.run_loadNumbers .enter (fun n i => rfl) h
  have stopped := h.run_loadNumbers .stop (fun n i => rfl) entered
  have finished := h.run_loadNumbers .finish (fun n i => rfl) stopped
  simp only [← run_append] at finished
  have same : (s.run s.loadActions).waiterIds = s.waiterIds :=
    (s.frame_of_spontaneous_run s.loadActions_spontaneous).2.1
  obtain ⟨past, hids, strangers⟩ := h.waiterIds_eq
  unfold Registry.settle
  rw [hids]
  refine run_waiters ?_ (fun _ _ => rfl) apply_wake_of_not_mem (fun id hid => ?_) s.waiterIds
  · exact finished
  · rw [same]
    exact strangers id hid

theorem request (h : p.IsBehind r s) (id : WaiterId) (q : Request) :
    p.IsBehind (r.request id q) (s.request id q) := by
  have asked := h.apply (.ask id q)
  unfold Registry.request
  rw [h.limit_eq]
  cases s.limit with
  | none => exact asked
  | some l =>
      by_cases hl : l.immediate = true
      · simp only [hl, if_true]
        exact asked.run_loadNumbers _ (fun n i => rfl) (asked.apply (.elapse id))
      · simp only [if_neg hl]
        exact asked

/-- A waiter of the registry's own waits with a past as it does without. -/
theorem await (h : p.IsBehind r s) {id : WaiterId} (own : id ∈ s.waiterIds) :
    p.IsBehind (r.await id) (s.await id) := by
  have settled := h.settle
  have own' : id ∈ s.settle.waiterIds := by
    rw [waiterIds_settle]
    exact own
  unfold Registry.await
  rw [h.answerOf?_eq (.inl own)]
  split
  · exact h
  · dsimp only
    rw [settled.answerOf?_eq (.inl own')]
    split
    · exact settled
    · obtain ⟨past, hids, strangers⟩ := settled.waiterIds_eq
      -- who is left from the past has waited longer, but for nothing
      have earlier : r.settle.waiterIds.takeWhile (· ≠ id) =
          past ++ s.settle.waiterIds.takeWhile (· ≠ id) := by
        rw [hids, List.takeWhile_append_of_pos]
        intro id' hid
        have hne : id' ≠ id := fun heq => strangers id' hid (heq ▸ own')
        simpa using hne
      rw [earlier, List.append_assoc]
      exact (settled.run_waiters (fun _ _ => rfl) apply_elapse_of_not_mem strangers _).settle

/-- Who asks is among the waiters. -/
theorem mem_waiterIds_request (t : Registry) (id : WaiterId) (q : Request) :
    id ∈ (t.request id q).waiterIds := by
  have added : ∀ (u : Registry) (w : Waiter), w.id ∈ (u.addWaiter w).waiterIds := by
    intro u w
    exact List.mem_map.mpr ⟨w, List.mem_append_right _ List.mem_cons_self, rfl⟩
  have asked : id ∈ (t.apply (.ask id q)).waiterIds := by
    show id ∈ (t.ask id q).waiterIds
    unfold ask
    split
    · exact added t.subscribe.1 { id, request := q, waiting := .blocked t.subscribe.2 }
    · exact added t { id, request := q, waiting := .answered (t.answer q) }
  unfold Registry.request
  cases t.limit with
  | none => exact asked
  | some l =>
      by_cases hl : l.immediate = true
      · simp only [hl, if_true]
        have enters := spontaneous_map .enter (fun _ => rfl) (t.apply (.ask id q)).loadNumbers
        rw [(Registry.frame_of_spontaneous_run _ enters).2.1]
        simp only [Registry.apply]
        split
        · rw [settleWaiter_waiterIds]
          exact asked
        · exact asked
      · simp only [if_neg hl]
        exact asked

theorem obtain (h : p.IsBehind r s) (q : Request) : p.IsBehind (r.obtain q) (s.obtain q) :=
  (h.request .caller q).await (mem_waiterIds_request s .caller q)

theorem perform_await (h : p.IsBehind r s) (id : WaiterId) :
    p.IsBehind (r.perform (.await id)) (s.perform (.await id)) := by
  show p.IsBehind (if (r.waiter? id).isSome then r.await id else r)
    (if (s.waiter? id).isSome then s.await id else s)
  by_cases own : id ∈ s.waiterIds
  · have found : (s.waiter? id).isSome := by
      obtain ⟨w, hw, hid⟩ := List.mem_map.mp own
      unfold waiter?
      rw [List.find?_isSome]
      exact ⟨w, hw, by simpa using hid⟩
    rw [h.waiter?_eq (.inl own), Option.isSome_map, if_pos found, if_pos found]
    exact h.await own
  · have unknown : ¬ (s.waiter? id).isSome := by
      rw [Option.isSome_iff_exists]
      rintro ⟨w, hw⟩
      obtain ⟨hmem, hid⟩ := mem_of_waiter? hw
      exact own (List.mem_map.mpr ⟨w, hmem, hid⟩)
    rw [if_neg unknown]
    cases found : r.waiter? id with
    | none => exact h
    | some w =>
        -- a waiter that is left from the past has its answer, and nobody waits for it
        have answered : (r.answerOf? id).isSome := by
          obtain ⟨gone, left, rfl⟩ := h
          have hload := left.load?_eq_none own found
          unfold answerOf?
          rw [found, Option.bind_some]
          unfold Waiter.load? at hload
          unfold Waiter.answer?
          cases hw : w.waiting with
          | blocked i => simp [hw] at hload
          | answered a => rfl
        rw [Option.isSome_some, if_pos rfl]
        unfold Registry.await
        rw [if_pos answered]
        exact h

/-- In a series of steps, those on loads of the past change nothing, and every other does with the past what it
does without. -/
theorem performAll (h : p.IsBehind r s) (steps : List Step) :
    p.IsBehind (r.performAll steps)
      (s.performAll (steps.filterMap (Step.since? p.loads.length))) := by
  induction steps generalizing r s with
  | nil => exact h
  | cons step steps ih =>
      show p.IsBehind ((r.perform step).performAll steps) _
      cases step with
      | act a =>
          obtain ⟨-, past⟩ | ⟨b, rfl, hb⟩ := a.since?_cases p.loads.length
          · rw [List.filterMap_cons_none (by simp [Step.since?, past])]
            exact ih (h.apply_of_past past)
          · rw [List.filterMap_cons_some (b := .act b) (by simp [Step.since?, hb])]
            exact ih (h.apply b)
      | settle => exact ih h.settle
      | request id q => exact ih (h.request id q)
      | await id => exact ih (h.perform_await id)
      | obtain q => exact ih (h.obtain q)

end IsBehind
end Past

namespace Registry

/-! ### Registries whose loads have been cancelled -/

theorem Move.limit {r r' : Registry} {a : Action} (m : Move r a r') : r'.limit = r.limit := by
  cases m <;> rfl

theorem run_limit (r : Registry) (as : List Action) : (r.run as).limit = r.limit :=
  run_keeps (P := fun s => s.limit = r.limit) (fun hs m => m.limit.trans hs) rfl as

/-- If something is known of the document, a load has ended. -/
def KnownByLoad (r : Registry) : Prop :=
  r.phase ≠ .uninitialized → ∃ l ∈ r.loads, l.progress = .ended

theorem Consistent.knownByLoad {r r' : Registry} {a : Action} (h : r.Consistent)
    (hr : r.KnownByLoad) (m : Move r a r') : r'.KnownByLoad := by
  intro known
  by_cases before : r.phase = .uninitialized
  · cases m with
    | @finish i l load pending begun reachable =>
        refine ⟨{ l with progress := .ended }, ?_, rfl⟩
        exact List.mem_set (List.getElem?_eq_some_iff.mp load).1 _
    | rest | schedule | join | demand | reply | enter | reach | edit | halt | drop | settle | nextLoop =>
        exact absurd before known
  · rw [h.loads_of_known before m]
    exact hr before

/-- What a registry has been through, all of whose loads have been cancelled and none of whose waiters
waits. -/
def past (r : Registry) (cancelled : ∀ l ∈ r.loads, l.progress = .cancelled)
    (answered : ∀ w ∈ r.waiters, w.load? = none) : Past where
  loads := r.loads
  loop := r.loop
  events := r.events
  waiters := r.waiters
  cancelled
  answered

/-- After a run that has left nothing but cancelled loads, a registry is a new one with a past. -/
theorem isBehind_new {template : String} (named : template ≠ "") (limit : Option Limit)
    (loading : String → Loading) (reachable : Bool) {as : List Action} {r : Registry}
    (hr : r = (Registry.new (some template) limit loading reachable).run as)
    (cancelled : ∀ l ∈ r.loads, l.progress = .cancelled)
    (answered : ∀ w ∈ r.waiters, w.load? = none) :
    (r.past cancelled answered).IsBehind r
      (.new (some template) limit (fun _ => r.loading) r.reachable) := by
  have hnew := new_of_ne named limit loading reachable
  have start := Consistent.new (some template) limit loading reachable
  have h : r.Consistent := hr ▸ start.run as
  have path : r.path = some (Path.normal template) := by
    rw [hr, run_path, hnew]
  have sameLimit : r.limit = limit := by
    rw [hr, run_limit, hnew]
  have phase : r.phase = .uninitialized := by
    by_contra known
    have knownByLoad : r.KnownByLoad := by
      rw [hr]
      refine start.run_keeps (fun hs hp m => hs.knownByLoad hp m) ?_ as
      rw [hnew]
      exact fun hne => absurd rfl hne
    obtain ⟨l, hl, ended⟩ := knownByLoad known
    rw [cancelled l hl] at ended
    cases ended
  have current : r.current = none := by
    cases hc : r.current with
    | none => rfl
    | some i =>
        obtain ⟨l, hl, hne⟩ := (h.current_iff i).mp hc
        exact absurd (cancelled l (List.mem_of_getElem? hl)) hne
  refine ⟨r.waiters, ⟨List.Sublist.refl _, ?_⟩, ?_⟩
  · rw [new_of_ne named]
    exact fun w _ => List.not_mem_nil
  · rw [new_of_ne named]
    obtain ⟨_, _, _, _, _, _, _, _, _, _⟩ := r
    simp only at path sameLimit phase current
    subst path sameLimit phase current
    simp [after, past]

/-- **Recovery.** Let all loads that there were in a run be cancelled, by the end of the loop at the latest.
Then whatever clients do in the next loop, and in whatever order it happens, they cannot tell the registry
from a new one for the same document, with the same limit, and whose document can be had or not just as well.
The same is true in the same loop, once nothing happens of itself any more. Steps on loads from before are
nothing to the new registry, and every series of steps of the new one is met in this way. -/
theorem recovery (template : String) (named : template ≠ "") (limit : Option Limit)
    (loading : String → Loading) (reachable : Bool) (as : List Action) :
    let r := (Registry.new (some template) limit loading reachable).run as
    let fresh := Registry.new (some template) limit (fun _ => r.loading) r.reachable
    let since := List.filterMap (Step.since? r.loads.length)
    ((∀ l ∈ r.loads, l.progress ≠ .ended) → r.nextLoop.waiters = [] ∧ ∀ steps,
        Alike r.nextLoop (r.nextLoop.performAll steps) (fresh.performAll (since steps))) ∧
      ((∀ l ∈ r.loads, l.progress = .cancelled) → r.Quiescent → ∀ steps,
        Alike r (r.performAll steps) (fresh.performAll (since steps))) ∧
      ∀ steps, since (steps.map (Step.later r.loads.length)) = steps := by
  intro r fresh since
  have h : r.Consistent := (Consistent.new (some template) limit loading reachable).run as
  refine ⟨?_, ?_, Step.filterMap_since?_later r.loads.length⟩
  · intro unfinished
    refine ⟨rfl, fun steps => ?_⟩
    have hrun : r.nextLoop = (Registry.new (some template) limit loading reachable).run
        (as ++ [.nextLoop]) := by
      rw [run_append]
      rfl
    have cancelled : ∀ l ∈ r.nextLoop.loads, l.progress = .cancelled := by
      intro l hl
      obtain ⟨i, hi⟩ := List.mem_iff_getElem?.mp hl
      by_contra hne
      obtain ⟨hi, ended⟩ := nextLoop_loads.mp ⟨hi, hne⟩
      exact unfinished l (List.mem_of_getElem? hi) ended
    have answered : ∀ w ∈ r.nextLoop.waiters, w.load? = none := fun w hw => nomatch hw
    have behind := isBehind_new named limit loading reachable hrun cancelled answered
    have length : r.nextLoop.loads.length = r.loads.length := List.length_map _
    have all := behind.performAll steps
    simp only [past, length] at all
    exact all.alike rfl rfl rfl
  · intro cancelled quiescent steps
    have answered : ∀ w ∈ r.waiters, w.load? = none := by
      intro w hw
      unfold Waiter.load?
      cases hb : w.waiting with
      | answered a => rfl
      | blocked i =>
          -- its load is over, and it would still have to notice that
          have hi := List.getElem?_eq_getElem (h.blocked w hw i hb)
          have running := h.not_isOver_of_calm quiescent.calm hw hb hi
          rw [cancelled _ (List.mem_of_getElem? hi)] at running
          cases running
    have behind := isBehind_new named limit loading reachable rfl cancelled answered
    exact (behind.performAll steps).alike rfl rfl rfl

/-- A waiter comes, its load is cancelled, and it is told so; then somebody asks again, in the same loop or in
the next one. -/
theorem recovery_after_cancelled_load :
    let r := (Registry.new (some "a.xml") none (fun _ => .silent (.ok [])) false).run
      [.ask (.task "w") .table, .enter 0, .cancelLoad, .stop 0, .wake (.task "w")]
    let fresh := Registry.new (some "a.xml") none (fun _ => r.loading) r.reachable
    let steps := [.request (.task "v") .table, .act .reach, .act (.finish 1), .await (.task "v")]
    let since := List.filterMap (Step.since? r.loads.length)
    "a.xml" ≠ "" ∧ (∀ l ∈ r.loads, l.progress ≠ .ended) ∧ (∀ l ∈ r.loads, l.progress = .cancelled) ∧
      r.Quiescent ∧
      Alike r.nextLoop (r.nextLoop.performAll steps) (fresh.performAll (since steps)) ∧
      Alike r (r.performAll steps) (fresh.performAll (since steps)) := by
  intro r fresh steps since
  have named : "a.xml" ≠ "" := by decide
  have loads : r.loads = [{ loop := 0, begun := true, progress := .cancelled }] := by rfl
  have waiters : r.waiters = [{ id := .task "w", request := .table, waiting := .answered .cancelled }] := by
    rfl
  have cancelled : ∀ l ∈ r.loads, l.progress = .cancelled := by simp [loads]
  have load : ∀ (i : Nat) (l : Load), r.loads[i]? = some l → l.progress = .cancelled :=
    fun i l hi => cancelled l (List.mem_of_getElem? hi)
  have quiescent : r.Quiescent := by
    refine quiescent_iff.mpr
      { not_stopping := fun i l hi => by simp [load i l hi]
        begun := fun i l hi hp => by simp [load i l hi] at hp
        unreachable := fun i l hi hp => by simp [load i l hi] at hp
        nothing_to_notice := fun id => ?_ }
    cases found : r.waiter? id with
    | none => rfl
    | some w =>
        have hw := (mem_of_waiter? found).1
        rw [waiters, List.mem_singleton] at hw
        rw [hw]
        rfl
  have unfinished : ∀ l ∈ r.loads, l.progress ≠ .ended := by simp [loads]
  have recovered := recovery "a.xml" named none (fun _ => .silent (.ok [])) false
    [.ask (.task "w") .table, .enter 0, .cancelLoad, .stop 0, .wake (.task "w")]
  exact ⟨named, unfinished, cancelled, quiescent, (recovered.1 unfinished).2 steps,
    recovered.2.1 cancelled quiescent steps⟩

end Registry
end SqlMapper.Mapper
