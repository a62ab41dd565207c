import Mathlib
import SqlMapper.Proofs.Registry.Quiescence
/-!
# SqlMapper.Proofs.Registry.Settling

What happens of itself comes to an end. In the order in which `settle` lets it happen it leaves nothing
that could still happen (`settle_quiescent`): loads take their first steps, those that were asked to stop do
so, those that can end do so, and then the waiters notice it. And in whatever order it happens, there is
only so much of it (`Busy.length_le`): every action that changes something takes away from the work that is
left (`Move.work_lt`).
-/

namespace SqlMapper.Mapper.Registry

/-! ### What happens of itself -/

/-- What happens of itself to a load: it is begun if it was, and has come no further or is over. -/
theorem Move.load_of_spontaneous {r r' : Registry} {act : Action} (m : Move r act r')
    (spontaneous : act.isSpontaneous = true) {i : Nat} {l' : Load} (hi : r'.loads[i]? = some l') :
    ∃ l, r.loads[i]? = some l ∧ (l'.progress.isOver = true ∨
      l'.progress = l.progress ∧ (l.begun = true → l'.begun = true)) := by
  cases m with
  | rest | settle => exact ⟨l', hi, Or.inr ⟨rfl, id⟩⟩
  | enter load pending =>
      rcases set_load_cases load hi with ⟨rfl, rfl⟩ | ⟨-, hi⟩
      · exact ⟨_, load, Or.inr ⟨rfl, fun _ => rfl⟩⟩
      · exact ⟨l', hi, Or.inr ⟨rfl, id⟩⟩
  | finish load | drop load =>
      rcases set_load_cases load hi with ⟨rfl, rfl⟩ | ⟨-, hi⟩
      · exact ⟨_, load, Or.inl rfl⟩
      · exact ⟨l', hi, Or.inr ⟨rfl, id⟩⟩
  | schedule | join | demand | reply | reach | edit | halt | nextLoop => cases spontaneous

/-- What happens of itself brings no load, no waiter and no document. -/
theorem Move.frame_of_spontaneous {r r' : Registry} {act : Action} (m : Move r act r')
    (spontaneous : act.isSpontaneous = true) :
    r'.loads.length = r.loads.length ∧ r'.waiterIds = r.waiterIds ∧ r'.reachable = r.reachable := by
  cases m with
  | rest => exact ⟨rfl, rfl, rfl⟩
  | enter | finish | drop => exact ⟨List.length_set, rfl, rfl⟩
  | settle id told due => exact ⟨rfl, settleWaiter_waiterIds r id _, rfl⟩
  | schedule | join | demand | reply | reach | edit | halt | nextLoop => cases spontaneous

/-- What everything that happens of itself keeps, any number of such actions keeps. -/
theorem run_spontaneous_keeps {P : Registry → Prop}
    (keep : ∀ {s : Registry} {a : Action}, a.isSpontaneous = true → P s → P (s.apply a))
    {as : List Action} (spontaneous : ∀ a ∈ as, a.isSpontaneous = true) {r : Registry} (h : P r) :
    P (r.run as) := by
  induction as generalizing r with
  | nil => exact h
  | cons a as ih =>
      rw [run_cons]
      exact ih (fun b hb => spontaneous b (List.mem_cons_of_mem a hb))
        (keep (spontaneous a List.mem_cons_self) h)

/-- A series of actions, each of which brings something about and spoils nothing that was brought about
before, brings it all about. -/
theorem run_establishes {α : Type} {act : α → Action} {Q : α → Registry → Prop}
    {I : Registry → Prop} (inv : ∀ x s, I s → I (s.apply (act x)))
    (establish : ∀ x s, I s → Q x (s.apply (act x)))
    (keep : ∀ x y s, Q x s → Q x (s.apply (act y))) (xs : List α) {s : Registry} (h : I s) :
    ∀ x, Q x s ∨ x ∈ xs → Q x (s.run (xs.map act)) := by
  induction xs generalizing s with
  | nil =>
      intro x hx
      rcases hx with hx | hx
      · exact hx
      · cases hx
  | cons y ys ih =>
      intro x hx
      refine ih (inv y s h) x ?_
      rcases hx with hx | hx
      · exact Or.inl (keep x y s hx)
      · rcases List.mem_cons.mp hx with rfl | hx
        · exact Or.inl (establish x s h)
        · exact Or.inr hx

/-! ### Loads that settle -/

/-- The load of a number, if it runs, has a property. -/
def Runs (P : Load → Prop) (i : Nat) (r : Registry) : Prop :=
  ∀ l, r.loads[i]? = some l → l.progress.isOver = false → P l

/-- A property that a load does not lose by its first step. -/
def Lasting (P : Load → Prop) : Prop :=
  ∀ l l' : Load, l'.progress = l.progress → (l.begun = true → l'.begun = true) → P l → P l'

/-- A pending load has taken its first step. -/
def HasEntered (l : Load) : Prop := l.progress = .pending → l.begun = true

/-- A running load is not about to be cancelled. -/
def HasStopped (l : Load) : Prop := l.progress = .pending

/-- A pending load waits for a document that cannot be had. -/
def HasFinished (reachable : Bool) (l : Load) : Prop := l.progress = .pending → reachable = false

theorem hasEntered_lasting : Lasting HasEntered := by
  intro l l' hsame hbegun h hp
  exact hbegun (h (hsame ▸ hp))

theorem hasStopped_lasting : Lasting HasStopped := by
  intro l l' hsame _ h
  exact hsame.trans h

theorem hasFinished_lasting (reachable : Bool) : Lasting (HasFinished reachable) := by
  intro l l' hsame _ h hp
  exact h (hsame ▸ hp)

/-- A load that runs just waits for a document that cannot be had. -/
def Waits (reachable : Bool) (l : Load) : Prop :=
  HasEntered l ∧ HasStopped l ∧ HasFinished reachable l

theorem waits_lasting (reachable : Bool) : Lasting (Waits reachable) := by
  rintro l l' hsame hbegun ⟨entered, stopped, finished⟩
  exact ⟨hasEntered_lasting l l' hsame hbegun entered, hasStopped_lasting l l' hsame hbegun stopped,
    hasFinished_lasting reachable l l' hsame hbegun finished⟩

theorem Runs.keep {P : Load → Prop} (lasting : Lasting P) {i : Nat} {r : Registry} (h : Runs P i r)
    {a : Action} (ha : a.isSpontaneous = true) : Runs P i (r.apply a) := by
  intro l' hi hrun
  obtain ⟨l, hl, hover | ⟨hsame, hbegun⟩⟩ := (r.apply_move a).load_of_spontaneous ha hi
  · rw [hrun] at hover
    cases hover
  · exact lasting l l' hsame hbegun (h l hl (hsame ▸ hrun))

/-- What an action brings about for one load, such actions bring about for all. -/
theorem runs_of_loadNumbers {P : Load → Prop} (lasting : Lasting P) {act : Nat → Action}
    (spontaneous : ∀ i, (act i).isSpontaneous = true) {I : Registry → Prop}
    (inv : ∀ i s, I s → I (s.apply (act i)))
    (establish : ∀ i s, I s → Runs P i (s.apply (act i))) {r s : Registry}
    (same : s.loads.length = r.loads.length) (h : I s) (i : Nat) :
    Runs P i (s.run (r.loadNumbers.map act)) := by
  refine run_establishes inv establish (fun i j s hs => hs.keep lasting (spontaneous j))
    r.loadNumbers h i ?_
  by_cases hlt : i < r.loads.length
  · exact Or.inr (List.mem_range.mpr hlt)
  · -- there is no load of this number
    refine Or.inl fun l hl => ?_
    have := (List.getElem?_eq_some_iff.mp hl).1
    omega

theorem runs_enter (i : Nat) (s : Registry) : Runs HasEntered i (s.apply (.enter i)) := by
  intro l' hi _ hp
  simp only [apply] at hi
  split at hi
  case _ l hl =>
      rcases set_load_cases (load?_eq_some.mp hl).1 hi with ⟨-, rfl⟩ | ⟨hne, -⟩
      · rfl
      · exact absurd rfl hne
  case _ hl =>
      rw [load?_eq_some.mpr ⟨hi, hp⟩] at hl
      cases hl

theorem runs_stop (i : Nat) (s : Registry) : Runs HasStopped i (s.apply (.stop i)) := by
  intro l' hi hrun
  simp only [apply] at hi
  split at hi
  case _ l hl =>
      rcases set_load_cases (load?_eq_some.mp hl).1 hi with ⟨-, rfl⟩ | ⟨hne, -⟩
      · cases hrun
      · exact absurd rfl hne
  case _ hl =>
      cases hp : l'.progress with
      | pending => exact hp
      | stopping =>
          rw [load?_eq_some.mpr ⟨hi, hp⟩] at hl
          cases hl
      | ended | cancelled =>
          rw [hp] at hrun
          cases hrun

theorem runs_finish (i : Nat) (s : Registry) (entered : Runs HasEntered i s) :
    Runs (HasFinished s.reachable) i (s.apply (.finish i)) := by
  intro l' hi hrun hp
  cases hr : s.reachable with
  | false => rfl
  | true =>
      simp only [apply, hr, if_true] at hi
      split at hi
      case _ l hl =>
          have hl := (load?_eq_some.mp (Option.filter_eq_some_iff.mp hl).1).1
          rcases set_load_cases hl hi with ⟨-, rfl⟩ | ⟨hne, -⟩
          · cases hp
          · exact absurd rfl hne
      case _ hl =>
          rw [load?_eq_some.mpr ⟨hi, hp⟩, Option.filter_some, entered l' hi hrun hp] at hl
          cases hl

/-! ### Waiters that notice -/

/-- The waiter of an id has nothing to notice. -/
def Unmoved (id : WaiterId) (r : Registry) : Prop := (r.waiter? id).bind r.wakeAnswer? = none

theorem waiter?_settleWaiter (r : Registry) (id' : WaiterId) (a : Answer) (id : WaiterId) :
    (r.settleWaiter id' a).waiter? id = (r.waiter? id).map fun w =>
      if w.id = id' ∧ w.load?.isSome then { w with waiting := .answered a } else w := by
  have sameId : ∀ w : Waiter,
      (if w.id = id' ∧ w.load?.isSome then { w with waiting := .answered a } else w).id = w.id := by
    intro w
    split <;> rfl
  show (r.waiters.map _).find? _ = _
  rw [List.find?_map]
  congr 2
  funext w
  simp only [Function.comp_apply, sameId]

/-- A waiter that is blocked learns what it is told. -/
theorem answerOf?_settleWaiter {r : Registry} {w : Waiter} (found : r.waiter? w.id = some w) {i : Nat}
    (blocked : w.waiting = .blocked i) (a : Answer) : (r.settleWaiter w.id a).answerOf? w.id = some a := by
  have told : w.id = w.id ∧ w.load?.isSome := ⟨rfl, by simp [Waiter.load?, blocked]⟩
  unfold answerOf?
  rw [waiter?_settleWaiter, found, Option.map_some, if_pos told]
  rfl

theorem wakeAnswer?_settleWaiter (r : Registry) (id : WaiterId) (a : Answer) :
    (r.settleWaiter id a).wakeAnswer? = r.wakeAnswer? := rfl

/-- A waiter that has an answer has nothing to notice. -/
theorem wakeAnswer?_answered (r : Registry) (w : Waiter) (a : Answer) :
    r.wakeAnswer? { w with waiting := .answered a } = none := rfl

theorem unmoved_wake (id : WaiterId) (s : Registry) : Unmoved id (s.apply (.wake id)) := by
  unfold Unmoved
  simp only [apply]
  cases ha : (s.waiter? id).bind s.wakeAnswer? with
  | none => exact ha
  | some a =>
      obtain ⟨w, hw, hwa⟩ := Option.bind_eq_some_iff.mp ha
      obtain ⟨i, hb⟩ := blocked_of_wakeAnswer? hwa
      have told : w.id = id ∧ w.load?.isSome := ⟨(mem_of_waiter? hw).2, by simp [Waiter.load?, hb]⟩
      simp only [waiter?_settleWaiter, hw, Option.map_some, if_pos told, Option.bind_some,
        wakeAnswer?_answered]

theorem Unmoved.wake {id : WaiterId} {s : Registry} (h : Unmoved id s) (id' : WaiterId) :
    Unmoved id (s.apply (.wake id')) := by
  simp only [apply]
  split
  case _ a _ =>
      unfold Unmoved at h ⊢
      rw [waiter?_settleWaiter, wakeAnswer?_settleWaiter]
      cases hw : s.waiter? id with
      | none => rfl
      | some w =>
          rw [hw, Option.bind_some] at h
          rw [Option.map_some, Option.bind_some]
          split
          case isTrue => exact wakeAnswer?_answered s w a
          case isFalse => exact h
  case _ => exact h

/-- Who is not among the waiters has nothing to notice. -/
theorem unmoved_of_not_mem {id : WaiterId} {s : Registry} (h : id ∉ s.waiterIds) :
    Unmoved id s := by
  unfold Unmoved
  cases hw : s.waiter? id with
  | none => rfl
  | some w =>
      obtain ⟨hmem, hid⟩ := mem_of_waiter? hw
      exact absurd (List.mem_map.mpr ⟨w, hmem, hid⟩) h

/-- Once all waiters have been woken, none has anything to notice. -/
theorem unmoved_of_waiterIds {r s : Registry} (same : s.waiterIds = r.waiterIds)
    (id : WaiterId) : Unmoved id (s.run (r.waiterIds.map .wake)) := by
  refine run_establishes (I := fun _ => True) (fun _ _ _ => trivial)
    (fun id s _ => unmoved_wake id s) (fun id id' s hs => hs.wake id') r.waiterIds trivial id ?_
  by_cases hmem : id ∈ r.waiterIds
  · exact Or.inr hmem
  · exact Or.inl (unmoved_of_not_mem (same ▸ hmem))

/-! ### Settling leaves nothing to happen -/

theorem spontaneous_map {α : Type} (act : α → Action)
    (spontaneous : ∀ x, (act x).isSpontaneous = true) (xs : List α) :
    ∀ a ∈ xs.map act, a.isSpontaneous = true := by
  intro a ha
  obtain ⟨x, -, rfl⟩ := List.mem_map.mp ha
  exact spontaneous x

theorem frame_of_spontaneous_run (r : Registry) {as : List Action}
    (spontaneous : ∀ a ∈ as, a.isSpontaneous = true) :
    (r.run as).loads.length = r.loads.length ∧ (r.run as).waiterIds = r.waiterIds ∧
      (r.run as).reachable = r.reachable := by
  refine run_spontaneous_keeps (P := fun s => s.loads.length = r.loads.length ∧
    s.waiterIds = r.waiterIds ∧ s.reachable = r.reachable) ?_ spontaneous ⟨rfl, rfl, rfl⟩
  rintro s a ha ⟨hl, hw, hr⟩
  obtain ⟨hl', hw', hr'⟩ := (s.apply_move a).frame_of_spontaneous ha
  exact ⟨hl'.trans hl, hw'.trans hw, hr'.trans hr⟩

theorem Runs.keep_run {P : Load → Prop} (lasting : Lasting P) {i : Nat} {r : Registry}
    (h : Runs P i r) {as : List Action} (spontaneous : ∀ a ∈ as, a.isSpontaneous = true) :
    Runs P i (r.run as) :=
  run_spontaneous_keeps (fun ha hs => hs.keep lasting ha) spontaneous h

/-- What can happen to the loads without anybody's doing leaves them waiting. -/
theorem waits_of_loadActions (r : Registry) (i : Nat) :
    Runs (Waits r.reachable) i (r.run r.loadActions) := by
  have enters := spontaneous_map .enter (fun _ => rfl) r.loadNumbers
  have stops := spontaneous_map .stop (fun _ => rfl) r.loadNumbers
  have finishes := spontaneous_map .finish (fun _ => rfl) r.loadNumbers
  -- the stages, with what each brings about and later ones keep
  let r₁ := r.run (r.loadNumbers.map .enter)
  let r₂ := r₁.run (r.loadNumbers.map .stop)
  obtain ⟨l₁, -, d₁⟩ := r.frame_of_spontaneous_run enters
  obtain ⟨l₂, -, d₂⟩ := r₁.frame_of_spontaneous_run stops
  have entered₁ : ∀ j, Runs HasEntered j r₁ :=
    runs_of_loadNumbers (I := fun _ => True) hasEntered_lasting (fun _ => rfl)
      (fun _ _ _ => trivial) (fun j s _ => runs_enter j s) rfl trivial
  have entered₂ : ∀ j, Runs HasEntered j r₂ :=
    fun j => (entered₁ j).keep_run hasEntered_lasting stops
  have stopped₂ : ∀ j, Runs HasStopped j r₂ :=
    runs_of_loadNumbers (I := fun _ => True) hasStopped_lasting (fun _ => rfl)
      (fun _ _ _ => trivial) (fun j s _ => runs_stop j s) l₁ trivial
  have finished : ∀ j, Runs (HasFinished r.reachable) j (r₂.run (r.loadNumbers.map .finish)) := by
    -- a load can only end after its first step
    refine runs_of_loadNumbers
      (I := fun s => (∀ j, Runs HasEntered j s) ∧ s.reachable = r.reachable)
      (hasFinished_lasting _) (fun _ => rfl) ?_ ?_ (l₂.trans l₁) ⟨entered₂, d₂.trans d₁⟩
    · rintro j s ⟨he, hr⟩
      refine ⟨fun k => (he k).keep hasEntered_lasting rfl, ?_⟩
      exact ((s.apply_move (.finish j)).frame_of_spontaneous rfl).2.2.trans hr
    · rintro j s ⟨he, hr⟩
      rw [← hr]
      exact runs_finish j s (he j)
  have entered := (entered₂ i).keep_run hasEntered_lasting finishes
  have stopped := (stopped₂ i).keep_run hasStopped_lasting finishes
  unfold loadActions
  rw [run_append, run_append]
  intro l hi hrun
  exact ⟨entered l hi hrun, stopped l hi hrun, finished i l hi hrun⟩

theorem loadActions_spontaneous (r : Registry) :
    ∀ a ∈ r.loadActions, a.isSpontaneous = true := by
  unfold loadActions
  simp only [List.mem_append]
  rintro a ((ha | ha) | ha)
  · exact spontaneous_map .enter (fun _ => rfl) _ a ha
  · exact spontaneous_map .stop (fun _ => rfl) _ a ha
  · exact spontaneous_map .finish (fun _ => rfl) _ a ha

/-- A settled registry is calm. -/
theorem settle_calm (r : Registry) : r.settle.Calm := by
  have wakes := spontaneous_map .wake (fun _ => rfl) r.waiterIds
  obtain ⟨-, ids, reach⟩ := r.frame_of_spontaneous_run r.loadActions_spontaneous
  obtain ⟨-, -, reach'⟩ := (r.run r.loadActions).frame_of_spontaneous_run wakes
  have waits : ∀ i, Runs (Waits r.reachable) i r.settle :=
    fun i => (r.waits_of_loadActions i).keep_run (waits_lasting _) wakes
  refine
    { not_stopping := ?_
      begun := ?_
      unreachable := ?_
      nothing_to_notice := fun id => unmoved_of_waiterIds ids id }
  · intro i l hi hp
    have pending : l.progress = .pending := (waits i l hi (isOver_of_stopping hp)).2.1
    rw [hp] at pending
    cases pending
  · intro i l hi hp
    exact (waits i l hi (isOver_of_pending hp)).1 hp
  · intro i l hi hp
    rw [show r.settle.reachable = r.reachable from reach'.trans reach]
    exact (waits i l hi (isOver_of_pending hp)).2.2 hp

/-- A settled registry is quiescent. -/
theorem settle_quiescent (r : Registry) : r.settle.Quiescent := r.settle_calm.quiescent

/-- Those who waited for a load that is cancelled are told so, even one that came after the load had been
asked to stop. -/
example (limit : Option Limit) (loading : Loading) :
    let r : Registry :=
      { path := some "a.xml", limit, loading, reachable := true, phase := .uninitialized }
    let asked := r.run
      [.ask (.task "early") .table, .enter 0, .cancelLoad, .ask (.task "late") .table]
    asked.settle.waiters.map (·.answer?) = [some .cancelled, some .cancelled] := by
  cbv

/-! ### How much can happen -/

/-- What is left for a load to do: its first step, and its end. -/
def loadWork (l : Load) : Nat :=
  match l.progress, l.begun with
  | .pending, false => 2
  | .pending, true | .stopping, _ => 1
  | .ended, _ | .cancelled, _ => 0

/-- What is left for a waiter to do. -/
def waiterWork (w : Waiter) : Nat := if w.load?.isSome then 1 else 0

/-- What is left to do for all. -/
def work (r : Registry) : Nat := (r.loads.map loadWork).sum + (r.waiters.map waiterWork).sum

theorem sum_set_load {ls : List Load} {i : Nat} {l : Load} (hi : ls[i]? = some l) (l' : Load) :
    ((ls.set i l').map loadWork).sum + loadWork l = (ls.map loadWork).sum + loadWork l' := by
  induction ls generalizing i with
  | nil => cases hi
  | cons k ks ih =>
      cases i with
      | zero =>
          cases hi
          simp only [List.set_cons_zero, List.map_cons, List.sum_cons]
          omega
      | succ i =>
          have rest := ih (i := i) (by simpa using hi)
          simp only [List.set_cons_succ, List.map_cons, List.sum_cons]
          omega

/-- A load that is replaced by one with less to do leaves less to do. -/
theorem work_setLoad_lt {r r' : Registry} {i : Nat} {l l' : Load} (hi : r.loads[i]? = some l)
    (less : loadWork l' < loadWork l) (hloads : r'.loads = r.loads.set i l')
    (hwaiters : r'.waiters = r.waiters) : r'.work < r.work := by
  have hsum := sum_set_load hi l'
  unfold work
  rw [hloads, hwaiters]
  omega

/-- A waiter that gets an answer leaves less to do. -/
theorem work_settleWaiter_lt {r : Registry} {id : WaiterId} {a : Answer}
    (changes : r.settleWaiter id a ≠ r) : (r.settleWaiter id a).work < r.work := by
  have hmap : (r.settleWaiter id a).waiters.map waiterWork = r.waiters.map fun w =>
      waiterWork (if w.id = id ∧ w.load?.isSome then { w with waiting := .answered a } else w) := by
    show (r.waiters.map _).map _ = _
    rw [List.map_map]
    rfl
  unfold work
  rw [hmap]
  refine Nat.add_lt_add_left (List.sum_lt_sum _ _ ?_ ?_) _
  · intro w _
    split
    case isTrue => exact Nat.zero_le _
    case isFalse => exact Nat.le_refl _
  · -- if nobody had less to do, nobody of this id would be waiting, and nothing would have changed
    by_contra hnone
    refine changes ?_
    have same : ∀ w ∈ r.waiters,
        (if w.id = id ∧ w.load?.isSome then { w with waiting := .answered a } else w) = w := by
      intro w hw
      refine if_neg fun told => hnone ⟨w, hw, ?_⟩
      rw [if_pos told]
      show 0 < waiterWork w
      simp [waiterWork, told.2]
    unfold settleWaiter
    rw [List.map_congr_left same, List.map_id']

/-- What happens of itself and changes something leaves less to do. -/
theorem Move.work_lt {r r' : Registry} {act : Action} (m : Move r act r')
    (spontaneous : act.isSpontaneous = true) (changes : r' ≠ r) : r'.work < r.work := by
  cases m with
  | rest => exact absurd rfl changes
  | @enter i l load pending =>
      -- a load that has taken its first step already would be left as it is
      have fresh : l.begun = false := by
        cases hb : l.begun with
        | false => rfl
        | true =>
            rw [show ({ l with begun := true } : Load) = l by rw [← hb], setLoad_self load] at changes
            exact absurd rfl changes
      refine work_setLoad_lt load ?_ rfl rfl
      simp [loadWork, pending, fresh]
  | finish load pending begun =>
      refine work_setLoad_lt load ?_ rfl rfl
      simp [loadWork, pending, begun]
  | drop load stopping =>
      refine work_setLoad_lt load ?_ rfl rfl
      simp [loadWork, stopping]
  | settle => exact work_settleWaiter_lt changes
  | schedule | join | demand | reply | reach | edit | halt | nextLoop => cases spontaneous

/-- Actions that happen of themselves, one after the other, and each of them changes something. -/
def Busy (r : Registry) : List Action → Prop
  | [] => True
  | a :: as => a.isSpontaneous = true ∧ r.apply a ≠ r ∧ (r.apply a).Busy as

/-- What can happen of itself is bounded by what is left to do. -/
theorem Busy.length_le {r : Registry} {as : List Action} (h : r.Busy as) :
    as.length + (r.run as).work ≤ r.work := by
  induction as generalizing r with
  | nil => exact Nat.le_of_eq (Nat.zero_add _)
  | cons a as ih =>
      obtain ⟨spontaneous, changes, rest⟩ := h
      have less := (r.apply_move a).work_lt spontaneous changes
      have hrest := ih rest
      rw [List.length_cons, run_cons]
      omega

end SqlMapper.Mapper.Registry
