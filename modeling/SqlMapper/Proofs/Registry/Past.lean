import SqlMapper.Proofs.Registry.Settling
/-!
# SqlMapper.Proofs.Registry.Past

What a registry would be if loads had been begun and cancelled before (`Registry.after`). Such a past stays
where it is: an action on one of its loads changes nothing (`apply_after_of_past`), and every other action
does to the registry with the past what it does to the one without (`apply_after`). Loads have other numbers
and event loops other ones, so an action on a load is renumbered (`Action.since?`).

Waiters may be left from the past as well. They have their answers, and go when somebody asks under
their id, or with the event loop (`Action.leaves`).
-/

namespace SqlMapper.Mapper

/-- What came before: loads that were all cancelled, event loops, what was logged, and waiters, who all have
their answers. -/
structure Past where
  loads : List Load
  loop : Nat
  events : List Event
  waiters : List Waiter
  cancelled : ∀ l ∈ loads, l.progress = .cancelled
  answered : ∀ w ∈ waiters, w.load? = none

namespace Past

/-- A load of an event loop that is numbered from the past on. -/
def load (p : Past) (l : Load) : Load := { l with loop := p.loop + l.loop }

/-- A waiter for a load that is numbered from the past on. -/
def waiter (p : Past) (w : Waiter) : Waiter :=
  { w with waiting :=
      match w.waiting with
      | .blocked i => .blocked (p.loads.length + i)
      | .answered a => .answered a }

@[simp] theorem id_waiter (p : Past) (w : Waiter) : (p.waiter w).id = w.id := rfl

@[simp] theorem load?_waiter (p : Past) (w : Waiter) :
    (p.waiter w).load? = w.load?.map (p.loads.length + ·) := by
  unfold waiter Waiter.load?
  cases w.waiting <;> rfl

@[simp] theorem answer?_waiter (p : Past) (w : Waiter) : (p.waiter w).answer? = w.answer? := by
  unfold waiter Waiter.answer?
  cases w.waiting <;> rfl

end Past

namespace Action

/-- An action on a load, by the load's number among those that came after `n` others; none if the load is
one of these. -/
def since? (n : Nat) : Action → Option Action
  | .enter i => if n ≤ i then some (.enter (i - n)) else none
  | .finish i => if n ≤ i then some (.finish (i - n)) else none
  | .stop i => if n ≤ i then some (.stop (i - n)) else none
  | a => some a

/-- An action on a load that came after `n` others, by the load's number among all. -/
def later (n : Nat) : Action → Action
  | .enter i => .enter (n + i)
  | .finish i => .finish (n + i)
  | .stop i => .stop (n + i)
  | a => a

@[simp] theorem since?_later (n : Nat) (a : Action) : (a.later n).since? n = some a := by
  cases a <;> simp [later, since?]

/-- An action is on one of the first loads, or it is a later one. -/
theorem since?_cases (n : Nat) (a : Action) :
    (∃ i < n, a = .enter i ∨ a = .finish i ∨ a = .stop i) ∧ a.since? n = none ∨
      ∃ b : Action, a = b.later n ∧ a.since? n = some b := by
  cases a with
  | enter i =>
      by_cases h : n ≤ i
      · exact Or.inr ⟨.enter (i - n), by simp [later, h], by simp [since?, h]⟩
      · exact Or.inl ⟨⟨i, by omega, by simp⟩, by simp [since?, h]⟩
  | finish i =>
      by_cases h : n ≤ i
      · exact Or.inr ⟨.finish (i - n), by simp [later, h], by simp [since?, h]⟩
      · exact Or.inl ⟨⟨i, by omega, by simp⟩, by simp [since?, h]⟩
  | stop i =>
      by_cases h : n ≤ i
      · exact Or.inr ⟨.stop (i - n), by simp [later, h], by simp [since?, h]⟩
      · exact Or.inl ⟨⟨i, by omega, by simp⟩, by simp [since?, h]⟩
  | start | ask | reach | edit | cancelLoad | wake | cancel | elapse | nextLoop =>
      exact Or.inr ⟨_, rfl, rfl⟩

/-- Which waiters are left after an action of those that nothing else happens to. -/
def leaves (gone : List Waiter) : Action → List Waiter
  | .ask id _ => gone.filter (·.id ≠ id)
  | .nextLoop => []
  | _ => gone

theorem leaves_sublist (gone : List Waiter) (a : Action) : (a.leaves gone).Sublist gone := by
  cases a with
  | ask => exact List.filter_sublist
  | nextLoop => exact List.nil_sublist gone
  | start | enter | reach | edit | finish | cancelLoad | stop | wake | cancel | elapse =>
      exact List.Sublist.refl gone

end Action

namespace Registry

/-- A registry as it would be with a past, and with waiters left from it. -/
def after (s : Registry) (p : Past) (gone : List Waiter) : Registry :=
  { s with
      loads := p.loads ++ s.loads.map p.load,
      current := s.current.map (p.loads.length + ·),
      loop := p.loop + s.loop,
      waiters := gone ++ s.waiters.map p.waiter,
      events := p.events ++ s.events }

/-- These waiters are left from a past, and none of a registry's own has the id of one of them. -/
structure Left (p : Past) (gone : List Waiter) (s : Registry) : Prop where
  sublist : gone.Sublist p.waiters
  apart : ∀ w ∈ gone, w.id ∉ s.waiterIds

theorem Left.answered {p : Past} {gone : List Waiter} {s : Registry} (h : Left p gone s) {w : Waiter}
    (hw : w ∈ gone) : w.load? = none :=
  p.answered w (h.sublist.subset hw)

section After

variable (p : Past) (gone : List Waiter) (s : Registry)

/-! ### Reading the state -/

@[simp] theorem limit_after : (s.after p gone).limit = s.limit := rfl

@[simp] theorem current_after :
    (s.after p gone).current = s.current.map (p.loads.length + ·) := rfl

theorem getElem?_after (i : Nat) :
    (s.after p gone).loads[p.loads.length + i]? = s.loads[i]?.map p.load := by
  show (p.loads ++ s.loads.map p.load)[p.loads.length + i]? = _
  rw [List.getElem?_append_right (Nat.le_add_right _ _), Nat.add_sub_cancel_left, List.getElem?_map]

theorem length_after : (s.after p gone).loads.length = p.loads.length + s.loads.length := by
  show (p.loads ++ s.loads.map p.load).length = _
  rw [List.length_append, List.length_map]

theorem load?_after (i : Nat) (q : Progress) :
    (s.after p gone).load? (p.loads.length + i) q = (s.load? i q).map p.load := by
  unfold load?
  rw [getElem?_after]
  cases s.loads[i]? with
  | none => rfl
  | some l =>
      rw [Option.map_some, Option.filter_some, Option.filter_some]
      by_cases hl : l.progress = q
      · have hd : decide (l.progress = q) = true := decide_eq_true hl
        have hd' : decide ((p.load l).progress = q) = true := hd
        rw [if_pos hd, if_pos hd', Option.map_some]
      · have hd : ¬ decide (l.progress = q) = true := fun h => hl (of_decide_eq_true h)
        have hd' : ¬ decide ((p.load l).progress = q) = true := hd
        rw [if_neg hd, if_neg hd', Option.map_none]

/-- A load of the past is over. -/
theorem load?_after_of_past {i : Nat} (hi : i < p.loads.length) {q : Progress}
    (hq : q ≠ .cancelled) : (s.after p gone).load? i q = none := by
  cases hl : (s.after p gone).load? i q with
  | none => rfl
  | some l =>
      obtain ⟨hget, hprogress⟩ := load?_eq_some.mp hl
      have hpast : p.loads[i]? = some l := by
        rw [← hget]
        exact (List.getElem?_append_left hi).symm
      have hcancelled := p.cancelled l (List.mem_of_getElem? hpast)
      exact absurd (hprogress.symm.trans hcancelled) hq

theorem isUnderWay_after (i : Nat) :
    (s.after p gone).isUnderWay (p.loads.length + i) = s.isUnderWay i := by
  unfold isUnderWay
  rw [getElem?_after]
  cases s.loads[i]? with
  | none => rfl
  | some l =>
      have sameLoop : (p.loop + l.loop == p.loop + s.loop) = (l.loop == s.loop) := by
        rw [Bool.eq_iff_iff, beq_iff_eq, beq_iff_eq]
        omega
      show (p.loop + l.loop == p.loop + s.loop && _) = _
      rw [sameLoop]
      rfl

theorem waiterIds_after :
    (s.after p gone).waiterIds = gone.map (·.id) ++ s.waiterIds := by
  show (gone ++ s.waiters.map p.waiter).map (·.id) = _
  rw [List.map_append, List.map_map]
  rfl

/-- A waiter that is not left from the past is the registry's own. -/
theorem waiter?_after {id : WaiterId} (hid : ∀ w ∈ gone, w.id ≠ id) :
    (s.after p gone).waiter? id = (s.waiter? id).map p.waiter := by
  have notGone : gone.find? (·.id = id) = none := by
    rw [List.find?_eq_none]
    intro w hw
    simpa using hid w hw
  show (gone ++ s.waiters.map p.waiter).find? (·.id = id) = _
  rw [List.find?_append, notGone, Option.none_or, List.find?_map]
  rfl

theorem wakeAnswer?_after (w : Waiter) :
    (s.after p gone).wakeAnswer? (p.waiter w) = s.wakeAnswer? w := by
  unfold wakeAnswer?
  rw [Past.load?_waiter, Option.bind_map]
  cases w.load? with
  | none => rfl
  | some i =>
      simp only [Option.bind_some, Function.comp_apply, getElem?_after]
      cases s.loads[i]? with
      | none => rfl
      | some l => rfl

/-! ### Operations -/

theorem schedule_after : (s.after p gone).schedule = s.schedule.after p gone := by
  unfold schedule
  rw [length_after]
  simp [after, Past.load]

theorem subscribe_after : (s.after p gone).subscribe =
    (s.subscribe.1.after p gone, p.loads.length + s.subscribe.2) := by
  unfold subscribe
  rw [current_after]
  cases s.current with
  | none => simp [schedule_after, length_after]
  | some i =>
      simp only [Option.map_some, isUnderWay_after]
      split
      · rfl
      · simp [schedule_after, length_after]

theorem addWaiter_after (w : Waiter) : (s.after p gone).addWaiter (p.waiter w) =
    (s.addWaiter w).after p (gone.filter (·.id ≠ w.id)) := by
  have own : (s.waiters.map p.waiter).filter (·.id ≠ w.id) =
      (s.waiters.filter (·.id ≠ w.id)).map p.waiter := by
    rw [List.filter_map]
    rfl
  have waiters : (gone ++ s.waiters.map p.waiter).filter (·.id ≠ w.id) ++ [p.waiter w] =
      gone.filter (·.id ≠ w.id) ++ (s.waiters.filter (·.id ≠ w.id) ++ [w]).map p.waiter := by
    rw [List.filter_append, own, List.append_assoc, List.map_append]
    rfl
  exact congrArg (fun ws => { s.after p gone with waiters := ws }) waiters

theorem ask_after (id : WaiterId) (q : Request) : (s.after p gone).ask id q =
    (s.ask id q).after p (gone.filter (·.id ≠ id)) := by
  unfold ask
  by_cases ho : s.phase.isOpen = true
  · have ho' : (s.after p gone).phase.isOpen = true := ho
    rw [if_pos ho, if_pos ho', subscribe_after]
    exact addWaiter_after p gone s.subscribe.1 { id, request := q, waiting := .blocked s.subscribe.2 }
  · have ho' : ¬ (s.after p gone).phase.isOpen = true := ho
    rw [if_neg ho, if_neg ho']
    exact addWaiter_after p gone s { id, request := q, waiting := .answered (s.answer q) }

theorem set_after (i : Nat) (l : Load) :
    (s.after p gone).loads.set (p.loads.length + i) (p.load l) =
      p.loads ++ (s.loads.set i l).map p.load := by
  show (p.loads ++ s.loads.map p.load).set (p.loads.length + i) (p.load l) = _
  rw [List.set_append_right _ _ (Nat.le_add_right _ _), Nat.add_sub_cancel_left, List.map_set]

theorem setLoad_after (i : Nat) (l : Load) :
    (s.after p gone).setLoad (p.loads.length + i) (p.load l) = (s.setLoad i l).after p gone :=
  congrArg (fun ls => { s.after p gone with loads := ls }) (set_after p gone s i l)

theorem finish_after (i : Nat) (l : Load) :
    (s.after p gone).finish (p.loads.length + i) (p.load l) = (s.finish i l).after p gone := by
  have loads := set_after p gone s i { l with progress := .ended }
  have events : (p.events ++ s.events) ++ s.endEvents = p.events ++ (s.events ++ s.endEvents) :=
    List.append_assoc _ _ _
  exact congrArg₂ (fun ls es =>
    { s.after p gone with phase := .ofResult s.loading.result, loads := ls, events := es }) loads events

/-- The current load is the same one with a past. -/
theorem current_after_eq (i : Nat) :
    ((s.after p gone).current = some (p.loads.length + i)) ↔ s.current = some i := by
  show s.current.map (p.loads.length + ·) = some (p.loads.length + i) ↔ _
  cases s.current <;> simp

theorem drop_after (i : Nat) (l : Load) :
    (s.after p gone).drop (p.loads.length + i) (p.load l) = (s.drop i l).after p gone := by
  have loads := set_after p gone s i { l with progress := .cancelled }
  have current : (if (s.after p gone).current = some (p.loads.length + i) then none
      else (s.after p gone).current) =
        (if s.current = some i then none else s.current).map (p.loads.length + ·) := by
    rw [if_congr (current_after_eq p gone s i) rfl rfl]
    split <;> rfl
  exact congrArg₂ (fun ls c => { s.after p gone with loads := ls, current := c }) loads current

theorem nextLoop_after : (s.after p gone).nextLoop = s.nextLoop.after p [] := by
  have past : p.loads.map (fun l =>
      if l.progress.isOver then l else { l with progress := .cancelled }) = p.loads := by
    refine (List.map_congr_left fun l hl => ?_).trans (List.map_id p.loads)
    rw [p.cancelled l hl]
    rfl
  have own : (s.loads.map p.load).map (fun l =>
      if l.progress.isOver then l else { l with progress := .cancelled }) =
        (s.loads.map fun l =>
          if l.progress.isOver then l else { l with progress := .cancelled }).map p.load := by
    rw [List.map_map, List.map_map]
    refine List.map_congr_left fun l _ => ?_
    rw [Function.comp_apply, Function.comp_apply]
    by_cases ho : l.progress.isOver = true
    · have ho' : (p.load l).progress.isOver = true := ho
      rw [if_pos ho, if_pos ho']
    · have ho' : ¬ (p.load l).progress.isOver = true := ho
      rw [if_neg ho, if_neg ho']
      rfl
  have current : (s.after p gone).nextLoop.current = s.nextLoop.current.map (p.loads.length + ·) := by
    simp only [nextLoop, current_after]
    cases s.current with
    | none => rfl
    | some i =>
        simp only [Option.map_some, Option.bind_some, getElem?_after]
        cases s.loads[i]? with
        | none => rfl
        | some l =>
            by_cases ho : l.progress.isOver = true
            · have ho' : (p.load l).progress.isOver = true := ho
              simp only [Option.map_some, ho, ho', if_true]
            · have ho' : ¬ (p.load l).progress.isOver = true := ho
              simp only [Option.map_some, if_neg ho, if_neg ho', Option.map_none]
  have loads : (s.after p gone).nextLoop.loads = p.loads ++ s.nextLoop.loads.map p.load := by
    show (p.loads ++ s.loads.map p.load).map _ = _
    rw [List.map_append, past, own]
    rfl
  have loop : p.loop + s.loop + 1 = p.loop + (s.loop + 1) := Nat.add_assoc _ _ _
  have equal : ∀ {ls ls' : List Load} {c c' : Option Nat} {n n' : Nat}, ls = ls' → c = c' → n = n' →
      ({ s.after p gone with loads := ls, current := c, waiters := [], loop := n } : Registry) =
        { s.after p gone with loads := ls', current := c', waiters := [], loop := n' } := by
    rintro ls _ c _ n _ rfl rfl rfl
    rfl
  exact equal loads current loop

variable {p gone s}

/-- Waiters of the past are told nothing more. -/
theorem settleWaiter_after (left : Left p gone s) (id : WaiterId) (a : Answer) :
    (s.after p gone).settleWaiter id a = (s.settleWaiter id a).after p gone := by
  have past : gone.map (fun w =>
      if w.id = id ∧ w.load?.isSome then { w with waiting := .answered a } else w) = gone := by
    refine (List.map_congr_left fun w hw => ?_).trans (List.map_id gone)
    rw [left.answered hw]
    simp
  have own : (s.waiters.map p.waiter).map (fun w =>
      if w.id = id ∧ w.load?.isSome then { w with waiting := .answered a } else w) =
        (s.waiters.map fun w =>
          if w.id = id ∧ w.load?.isSome then { w with waiting := .answered a } else w).map
            p.waiter := by
    rw [List.map_map, List.map_map]
    refine List.map_congr_left fun w _ => ?_
    simp only [Function.comp_apply, Past.id_waiter, Past.load?_waiter, Option.isSome_map]
    split <;> rfl
  have waiters : (gone ++ s.waiters.map p.waiter).map (fun w =>
      if w.id = id ∧ w.load?.isSome then { w with waiting := .answered a } else w) =
        gone ++ (s.waiters.map fun w =>
          if w.id = id ∧ w.load?.isSome then { w with waiting := .answered a } else w).map
            p.waiter := by
    rw [List.map_append, past, own]
  exact congrArg (fun ws => { s.after p gone with waiters := ws }) waiters

/-- A waiter that is not the registry's own is left from the past and has its answer. -/
theorem Left.load?_eq_none (left : Left p gone s) {id : WaiterId} (stranger : id ∉ s.waiterIds)
    {w : Waiter} (found : (s.after p gone).waiter? id = some w) : w.load? = none := by
  obtain ⟨hw, hid⟩ := mem_of_waiter? found
  rcases List.mem_append.mp hw with hw | hw
  · exact left.answered hw
  · obtain ⟨v, hv, rfl⟩ := List.mem_map.mp hw
    exact absurd (List.mem_map.mpr ⟨v, hv, hid⟩) stranger

/-- A waiter notices the same with a past as without. -/
theorem noticed_after (left : Left p gone s) (id : WaiterId) :
    ((s.after p gone).waiter? id).bind (s.after p gone).wakeAnswer? =
      (s.waiter? id).bind s.wakeAnswer? := by
  by_cases own : id ∈ s.waiterIds
  · rw [waiter?_after p gone s fun w hw hid => left.apart w hw (hid ▸ own), Option.bind_map]
    exact Option.bind_congr fun w _ => wakeAnswer?_after p gone s w
  · rw [show (s.waiter? id).bind s.wakeAnswer? = none from unmoved_of_not_mem own]
    cases found : (s.after p gone).waiter? id with
    | none => rfl
    | some w => simp [wakeAnswer?, left.load?_eq_none own found]

/-! ### Actions -/

/-- An action on a load of the past changes nothing. -/
theorem apply_after_of_past {a : Action} (ha : a.since? p.loads.length = none) :
    (s.after p gone).apply a = s.after p gone := by
  obtain ⟨⟨i, hi, rfl | rfl | rfl⟩, -⟩ | ⟨b, -, hb⟩ := a.since?_cases p.loads.length
  · simp only [apply, load?_after_of_past p gone s hi (q := .pending) (by simp)]
  · simp only [apply, load?_after_of_past p gone s hi (q := .pending) (by simp), Option.filter_none]
  · simp only [apply, load?_after_of_past p gone s hi (q := .stopping) (by simp)]
  · rw [ha] at hb
    cases hb

/-- Any other action does with a past what it does without. -/
theorem apply_after (left : Left p gone s) (a : Action) :
    (s.after p gone).apply (a.later p.loads.length) = (s.apply a).after p (a.leaves gone) := by
  cases a with
  | start =>
      simp only [Action.later, apply, start, Action.leaves]
      by_cases ho : s.phase.isOpen = true
      · have ho' : (s.after p gone).phase.isOpen = true := ho
        rw [if_pos ho, if_pos ho', subscribe_after]
      · have ho' : ¬ (s.after p gone).phase.isOpen = true := ho
        rw [if_neg ho, if_neg ho']
  | ask id q => exact ask_after p gone s id q
  | enter i =>
      simp only [Action.later, apply, load?_after]
      cases s.load? i .pending with
      | none => rfl
      | some l => exact setLoad_after p gone s i { l with begun := true }
  | reach => rfl
  | edit loading => rfl
  | finish i =>
      simp only [Action.later, apply, load?_after]
      cases s.load? i .pending with
      | none => rfl
      | some l =>
          by_cases hb : l.begun = true
          · have hb' : (p.load l).begun = true := hb
            simp only [Option.map_some, Option.filter_some, if_pos hb, if_pos hb']
            by_cases hr : s.reachable = true
            · have hr' : (s.after p gone).reachable = true := hr
              rw [if_pos hr, if_pos hr']
              exact finish_after p gone s i l
            · have hr' : ¬ (s.after p gone).reachable = true := hr
              rw [if_neg hr, if_neg hr']
              rfl
          · have hb' : ¬ (p.load l).begun = true := hb
            simp only [Option.map_some, Option.filter_some, if_neg hb, if_neg hb']
            rfl
  | cancelLoad =>
      simp only [Action.later, apply, current_after]
      cases s.current with
      | none => rfl
      | some i =>
          simp only [Option.map_some, load?_after]
          cases s.load? i .pending with
          | none => rfl
          | some l => exact setLoad_after p gone s i { l with progress := .stopping }
  | stop i =>
      simp only [Action.later, apply, load?_after]
      cases s.load? i .stopping with
      | none => rfl
      | some l => exact drop_after p gone s i l
  | wake id =>
      simp only [Action.later, apply, noticed_after left]
      cases (s.waiter? id).bind s.wakeAnswer? with
      | none => rfl
      | some a => exact settleWaiter_after left id a
  | cancel id => exact settleWaiter_after left id .cancelled
  | elapse id =>
      simp only [Action.later, apply, limit_after]
      cases s.limit with
      | none => rfl
      | some l => exact settleWaiter_after left id _
  | nextLoop => exact nextLoop_after p gone s

/-- Waiters come by asking only. -/
theorem Move.waiterIds {r r' : Registry} {a : Action} (m : Move r a r') {id : WaiterId}
    (h : id ∈ r'.waiterIds) : id ∈ r.waiterIds ∨ ∃ q, a = .ask id q := by
  have added : ∀ {t : Registry} {w : Waiter}, id ∈ (t.addWaiter w).waiterIds →
      id ∈ t.waiterIds ∨ w.id = id := by
    intro t w hid
    obtain ⟨v, hv, rfl⟩ := List.mem_map.mp hid
    rcases List.mem_append.mp hv with hv | hv
    · exact Or.inl (List.mem_map.mpr ⟨v, (List.mem_filter.mp hv).1, rfl⟩)
    · exact Or.inr (by rw [List.mem_singleton.mp hv])
  cases m with
  | join id' q | demand id' q | reply id' q =>
      rcases added h with h | rfl
      · exact Or.inl h
      · exact Or.inr ⟨q, rfl⟩
  | settle id' told due =>
      rw [settleWaiter_waiterIds] at h
      exact Or.inl h
  | nextLoop => cases h
  | rest | schedule | enter | reach | edit | finish | halt | drop => exact Or.inl h

/-- Fewer and fewer waiters are left from the past. -/
theorem Left.apply (left : Left p gone s) (a : Action) : Left p (a.leaves gone) (s.apply a) where
  sublist := (a.leaves_sublist gone).trans left.sublist
  apart := by
    intro w hw h
    rcases (s.apply_move a).waiterIds h with h | ⟨q, rfl⟩
    · exact left.apart w ((a.leaves_sublist gone).subset hw) h
    · have hne := (List.mem_filter.mp hw).2
      simp at hne

end After
end Registry
end SqlMapper.Mapper
