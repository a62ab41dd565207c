import SqlMapper.Proofs.Registry.Move
/-!
# SqlMapper.Proofs.Registry.Invariant

The invariant of a registry (`Consistent`). It ties together what is known of the document, the loads
there have been, the one that waiters subscribe to, and the waiters:

* of all loads only the current one has not been cancelled;
* a load that is not over runs in the running loop, and nothing is known of the document yet;
* once a load has ended, something is known.

A load writes its result without asking whether it is the current one. The first point is why that does
no harm: a load that could still write is the current one.
-/

namespace SqlMapper.Mapper.Registry

/-- The invariant of a registry. -/
structure Consistent (r : Registry) : Prop where
  /-- The current load is the one that has not been cancelled. -/
  current_iff : ∀ i, r.current = some i ↔ ∃ l, r.loads[i]? = some l ∧ l.progress ≠ .cancelled
  loop_of_running : ∀ (i : Nat) (l : Load), r.loads[i]? = some l → l.progress.isOver = false →
    l.loop = r.loop
  phase_of_running : ∀ (i : Nat) (l : Load), r.loads[i]? = some l → l.progress.isOver = false →
    r.phase = .uninitialized
  phase_of_ended : ∀ (i : Nat) (l : Load), r.loads[i]? = some l → l.progress = .ended →
    r.phase ≠ .uninitialized
  /-- Waiters wait for loads that there are. -/
  blocked : ∀ w ∈ r.waiters, ∀ i, w.waiting = .blocked i → i < r.loads.length
  waiterIds_nodup : r.waiterIds.Nodup

/-! ### Reading the invariant -/

theorem ne_cancelled_of_running {p : Progress} (h : p.isOver = false) : p ≠ .cancelled := by
  rintro rfl
  cases h

theorem isOver_of_pending {p : Progress} (h : p = .pending) : p.isOver = false := by
  rw [h]
  rfl

theorem isOver_of_stopping {p : Progress} (h : p = .stopping) : p.isOver = false := by
  rw [h]
  rfl

theorem ended_of_isOver {p : Progress} (h : p.isOver = true) (hne : p ≠ .cancelled) :
    p = .ended := by
  cases p with
  | ended => rfl
  | cancelled => exact absurd rfl hne
  | pending | stopping => cases h

/-- Two loads that have not been cancelled are one. -/
theorem Consistent.eq_of_ne_cancelled {r : Registry} (h : r.Consistent) {i j : Nat} {k l : Load}
    (hi : r.loads[i]? = some k) (hk : k.progress ≠ .cancelled)
    (hj : r.loads[j]? = some l) (hl : l.progress ≠ .cancelled) : i = j := by
  have ci : r.current = some i := (h.current_iff i).mpr ⟨k, hi, hk⟩
  have cj : r.current = some j := (h.current_iff j).mpr ⟨l, hj, hl⟩
  rw [ci] at cj
  exact Option.some.inj cj

/-- A load that is not over is under way and the current one. -/
theorem Consistent.isUnderWay {r : Registry} (h : r.Consistent) {i : Nat} {l : Load}
    (hi : r.loads[i]? = some l) (hl : l.progress.isOver = false) :
    r.current = some i ∧ r.isUnderWay i = true :=
  ⟨(h.current_iff i).mpr ⟨l, hi, ne_cancelled_of_running hl⟩,
    isUnderWay_iff.mpr ⟨l, hi, h.loop_of_running i l hi hl, hl⟩⟩

/-- Where a load is needed, there is none that has not been cancelled. -/
theorem Consistent.all_cancelled {r : Registry} (h : r.Consistent) (need : r.NeedsLoad) {i : Nat}
    {l : Load} (hi : r.loads[i]? = some l) : l.progress = .cancelled := by
  cases hp : l.progress with
  | cancelled => rfl
  | ended => exact absurd need.1 (h.phase_of_ended i l hi hp)
  | pending | stopping =>
      have hl : l.progress.isOver = false := by rw [hp]; rfl
      obtain ⟨hc, hu⟩ := h.isUnderWay hi hl
      rw [need.2 i hc] at hu
      cases hu

/-- Nothing runs once something is known of the document. -/
theorem Consistent.isOver_of_known {r : Registry} (h : r.Consistent)
    (known : r.phase ≠ .uninitialized) {i : Nat} {l : Load} (hi : r.loads[i]? = some l) :
    l.progress.isOver = true := by
  cases hl : l.progress.isOver with
  | true => rfl
  | false => exact absurd (h.phase_of_running i l hi hl) known

/-! ### Replacing a load -/

theorem getElem?_set_load {ls : List Load} {i : Nat} {l : Load} (hi : ls[i]? = some l) (l' : Load)
    (j : Nat) : (ls.set i l')[j]? = if i = j then some l' else ls[j]? := by
  obtain ⟨hlt, -⟩ := List.getElem?_eq_some_iff.mp hi
  rw [List.getElem?_set]
  simp [hlt]

/-- A load among loads of which one has been replaced. -/
theorem set_load_cases {ls : List Load} {i : Nat} {l l' : Load} (hi : ls[i]? = some l) {j : Nat}
    {k : Load} (hj : (ls.set i l')[j]? = some k) : (j = i ∧ k = l') ∨ (i ≠ j ∧ ls[j]? = some k) := by
  rw [getElem?_set_load hi l' j] at hj
  split at hj
  case isTrue hij =>
      cases hj
      exact Or.inl ⟨hij.symm, rfl⟩
  case isFalse hij => exact Or.inr ⟨hij, hj⟩

/-- The current load is still the one that has not been cancelled if it is replaced by such a load. -/
theorem Consistent.current_iff_set {r : Registry} (h : r.Consistent) {i : Nat} {l l' : Load}
    (hi : r.loads[i]? = some l) (hl : l.progress ≠ .cancelled) (hl' : l'.progress ≠ .cancelled)
    (j : Nat) :
    r.current = some j ↔ ∃ k, (r.loads.set i l')[j]? = some k ∧ k.progress ≠ .cancelled := by
  rw [h.current_iff j, getElem?_set_load hi l' j]
  by_cases hij : i = j
  · subst hij
    simp [hi, hl, hl']
  · rw [if_neg hij]

/-- Waiters still wait for loads that there are if one of these is replaced. -/
theorem Consistent.blocked_set {r : Registry} (h : r.Consistent) (i : Nat) (l' : Load) :
    ∀ w ∈ r.waiters, ∀ j, w.waiting = .blocked j → j < (r.loads.set i l').length := by
  intro w hw j hj
  rw [List.length_set]
  exact h.blocked w hw j hj

/-- A running load may be replaced by a running one of the same loop. -/
theorem Consistent.setLoad {r : Registry} (h : r.Consistent) {i : Nat} {l l' : Load}
    (hi : r.loads[i]? = some l) (hl : l.progress.isOver = false)
    (hl' : l'.progress.isOver = false) (hloop : l'.loop = l.loop) :
    (r.setLoad i l').Consistent := by
  refine
    { current_iff :=
        h.current_iff_set hi (ne_cancelled_of_running hl) (ne_cancelled_of_running hl')
      loop_of_running := ?_
      phase_of_running := fun _ _ _ _ => h.phase_of_running i l hi hl
      phase_of_ended := ?_
      blocked := h.blocked_set i l'
      waiterIds_nodup := h.waiterIds_nodup }
  · intro j k hj hk
    rcases set_load_cases hi hj with ⟨-, rfl⟩ | ⟨-, hj⟩
    · rw [hloop]
      exact h.loop_of_running i l hi hl
    · exact h.loop_of_running j k hj hk
  · intro j k hj hk
    rcases set_load_cases hi hj with ⟨-, rfl⟩ | ⟨-, hj⟩
    · rw [hk] at hl'
      cases hl'
    · exact h.phase_of_ended j k hj hk

/-- Beside a running load, and whatever it is replaced by, all loads have been cancelled. -/
theorem Consistent.others_cancelled {r : Registry} (h : r.Consistent) {i : Nat} {l : Load}
    (hi : r.loads[i]? = some l) (hl : l.progress.isOver = false) {l' : Load} {j : Nat} {k : Load}
    (hj : (r.loads.set i l')[j]? = some k) : (j = i ∧ k = l') ∨ k.progress = .cancelled := by
  rcases set_load_cases hi hj with hji | ⟨hij, hj⟩
  · exact Or.inl hji
  · refine Or.inr ?_
    by_cases hk : k.progress = .cancelled
    · exact hk
    · exact absurd (h.eq_of_ne_cancelled hi (ne_cancelled_of_running hl) hj hk) hij

/-- The end of the running load leaves none that runs. -/
theorem Consistent.finish {r : Registry} (h : r.Consistent) {i : Nat} {l : Load}
    (hi : r.loads[i]? = some l) (hl : l.progress.isOver = false) : (r.finish i l).Consistent := by
  have ended : ∀ (j : Nat) (k : Load), (r.finish i l).loads[j]? = some k →
      k.progress.isOver = true := by
    intro j k hj
    rcases h.others_cancelled hi hl hj with ⟨-, rfl⟩ | hk
    · rfl
    · rw [hk]
      rfl
  exact
    { current_iff := h.current_iff_set hi (ne_cancelled_of_running hl) (by simp)
      loop_of_running := fun j k hj hk => absurd (ended j k hj) (by simp [hk])
      phase_of_running := fun j k hj hk => absurd (ended j k hj) (by simp [hk])
      phase_of_ended := fun _ _ _ _ => Phase.ofResult_ne_uninitialized _
      blocked := h.blocked_set i _
      waiterIds_nodup := h.waiterIds_nodup }

/-- A registry that drops the running load has none that has not been cancelled. -/
theorem Consistent.drop {r : Registry} (h : r.Consistent) {i : Nat} {l : Load}
    (hi : r.loads[i]? = some l) (hl : l.progress.isOver = false) : (r.drop i l).Consistent := by
  have cancelled : ∀ (j : Nat) (k : Load), (r.drop i l).loads[j]? = some k →
      k.progress = .cancelled := by
    intro j k hj
    rcases h.others_cancelled hi hl hj with ⟨-, rfl⟩ | hk
    · rfl
    · exact hk
  have none_current : (r.drop i l).current = none := by
    show (if r.current = some i then none else r.current) = none
    rw [if_pos (h.isUnderWay hi hl).1]
  refine
    { current_iff := ?_
      loop_of_running := fun j k hj hk => absurd (cancelled j k hj) (ne_cancelled_of_running hk)
      phase_of_running := fun j k hj hk => absurd (cancelled j k hj) (ne_cancelled_of_running hk)
      phase_of_ended := ?_
      blocked := h.blocked_set i _
      waiterIds_nodup := h.waiterIds_nodup }
  · intro j
    rw [none_current]
    constructor
    · intro hj
      cases hj
    · rintro ⟨k, hj, hk⟩
      exact absurd (cancelled j k hj) hk
  · intro j k hj hk
    rw [cancelled j k hj] at hk
    cases hk

/-! ### New loads and loops -/

/-- A load is scheduled only where all earlier ones have been cancelled. -/
theorem Consistent.schedule {r : Registry} (h : r.Consistent) (need : r.NeedsLoad) :
    r.schedule.Consistent := by
  -- the new load is the last one, and all before it have been cancelled
  have get : ∀ (j : Nat) (k : Load), r.schedule.loads[j]? = some k →
      k.progress = .cancelled ∨ j = r.loads.length ∧ k = { loop := r.loop } := by
    intro j k hj
    rw [show r.schedule.loads = r.loads ++ [{ loop := r.loop }] from rfl,
      List.getElem?_append] at hj
    split at hj
    · exact Or.inl (h.all_cancelled need hj)
    · obtain ⟨hlt, hk⟩ := List.getElem?_eq_some_iff.mp hj
      simp only [List.length_singleton] at hlt
      refine Or.inr ⟨by omega, ?_⟩
      simpa using hk.symm
  refine
    { current_iff := ?_
      loop_of_running := ?_
      phase_of_running := fun _ _ _ _ => need.1
      phase_of_ended := ?_
      blocked := ?_
      waiterIds_nodup := h.waiterIds_nodup }
  · intro j
    show some r.loads.length = some j ↔ _
    constructor
    · intro hj
      cases hj
      refine ⟨{ loop := r.loop }, ?_, by simp⟩
      show (r.loads ++ [{ loop := r.loop }])[r.loads.length]? = some _
      simp
    · rintro ⟨k, hj, hk⟩
      rcases get j k hj with hc | ⟨rfl, -⟩
      · exact absurd hc hk
      · rfl
  · intro j k hj hk
    rcases get j k hj with hc | ⟨-, rfl⟩
    · exact absurd hc (ne_cancelled_of_running hk)
    · rfl
  · intro j k hj hk
    rcases get j k hj with hc | ⟨-, rfl⟩
    · rw [hc] at hk
      cases hk
    · cases hk
  · intro w hw j hj
    show j < (r.loads ++ [_]).length
    rw [List.length_append]
    exact Nat.lt_add_right _ (h.blocked w hw j hj)

/-- The end of a loop leaves a load that has ended, and cancels every other. -/
theorem nextLoop_loads {r : Registry} {j : Nat} {k : Load} :
    (r.nextLoop.loads[j]? = some k ∧ k.progress ≠ .cancelled) ↔
      (r.loads[j]? = some k ∧ k.progress = .ended) := by
  rw [show r.nextLoop.loads = r.loads.map fun l =>
      if l.progress.isOver then l else { l with progress := .cancelled } from rfl,
    List.getElem?_map]
  cases hl : r.loads[j]? with
  | none => simp
  | some l =>
      simp only [Option.map_some, Option.some.injEq]
      constructor
      · rintro ⟨rfl, hk⟩
        split at hk
        case isTrue ho =>
            rw [if_pos ho]
            exact ⟨rfl, ended_of_isOver ho hk⟩
        case isFalse => exact absurd rfl hk
      · rintro ⟨rfl, hk⟩
        rw [hk]
        exact ⟨rfl, by simp⟩

/-- After a loop the current load is one that has ended. -/
theorem Consistent.nextLoop_current {r : Registry} (h : r.Consistent) {j : Nat} :
    r.nextLoop.current = some j ↔ ∃ k, r.loads[j]? = some k ∧ k.progress = .ended := by
  unfold Registry.nextLoop
  dsimp only
  constructor
  · intro hj
    split at hj
    case h_1 l hl =>
        split at hj
        case isTrue ho =>
            obtain ⟨k, hk, hne⟩ := (h.current_iff j).mp hj
            rw [hj, Option.bind_some, hk] at hl
            have hkl : k = l := Option.some.inj hl
            subst hkl
            exact ⟨k, hk, ended_of_isOver ho hne⟩
        case isFalse => cases hj
    case h_2 => cases hj
  · rintro ⟨k, hk, he⟩
    have hc : r.current = some j := (h.current_iff j).mpr ⟨k, hk, by simp [he]⟩
    rw [hc, Option.bind_some, hk]
    simp [he, Progress.isOver]

/-- The end of a loop leaves a load that has ended, if there is one, and none that runs. -/
theorem Consistent.nextLoop {r : Registry} (h : r.Consistent) : r.nextLoop.Consistent := by
  have ended : ∀ (j : Nat) (k : Load), r.nextLoop.loads[j]? = some k → k.progress.isOver = true := by
    intro j k hj
    by_cases hk : k.progress = .cancelled
    · rw [hk]
      rfl
    · rw [(nextLoop_loads.mp ⟨hj, hk⟩).2]
      rfl
  refine
    { current_iff := ?_
      loop_of_running := fun j k hj hk => absurd (ended j k hj) (by simp [hk])
      phase_of_running := fun j k hj hk => absurd (ended j k hj) (by simp [hk])
      phase_of_ended := ?_
      blocked := by simp [Registry.nextLoop]
      waiterIds_nodup := List.nodup_nil }
  · intro j
    rw [h.nextLoop_current]
    exact exists_congr fun k => nextLoop_loads.symm
  · intro j k hj hk
    have hold := nextLoop_loads.mp ⟨hj, by simp [hk]⟩
    exact h.phase_of_ended j k hold.1 hk

/-! ### Waiters -/

/-- A waiter that waits for a load that there is may be added. -/
theorem Consistent.addWaiter {r : Registry} (h : r.Consistent) {w : Waiter}
    (hw : ∀ i, w.waiting = .blocked i → i < r.loads.length) : (r.addWaiter w).Consistent := by
  refine { h with blocked := ?_, waiterIds_nodup := ?_ }
  · intro v hv i hi
    rcases List.mem_append.mp hv with hv | hv
    · exact h.blocked v (List.mem_filter.mp hv).1 i hi
    · rw [List.mem_singleton.mp hv] at hi
      exact hw i hi
  · -- the waiter of the same id, if there was one, has gone
    show ((r.waiters.filter (·.id ≠ w.id) ++ [w]).map (·.id)).Nodup
    rw [List.map_append, List.nodup_append]
    refine ⟨(h.waiterIds_nodup).sublist (List.filter_sublist.map _), by simp, ?_⟩
    intro a ha b hb hab
    obtain ⟨v, hv, rfl⟩ := List.mem_map.mp ha
    have hne := (List.mem_filter.mp hv).2
    simp only [List.map_cons, List.map_nil, List.mem_singleton] at hb
    subst hb
    simp [hab] at hne

theorem settleWaiter_waiterIds (r : Registry) (id : WaiterId) (a : Answer) :
    (r.settleWaiter id a).waiterIds = r.waiterIds := by
  show (r.waiters.map _).map _ = r.waiters.map _
  rw [List.map_map]
  refine List.map_congr_left fun w _ => ?_
  simp only [Function.comp_apply]
  split <;> rfl

/-- A blocked waiter may be given an answer. -/
theorem Consistent.settleWaiter {r : Registry} (h : r.Consistent) (id : WaiterId) (a : Answer) :
    (r.settleWaiter id a).Consistent := by
  refine { h with blocked := ?_, waiterIds_nodup := ?_ }
  · intro v hv i hi
    obtain ⟨w, hw, rfl⟩ := List.mem_map.mp hv
    split at hi
    · cases hi
    · exact h.blocked w hw i hi
  · rw [settleWaiter_waiterIds]
    exact h.waiterIds_nodup

/-! ### Every run -/

theorem Consistent.move {r r' : Registry} {a : Action} (h : r.Consistent) (m : Move r a r') :
    r'.Consistent := by
  cases m with
  | rest act => exact h
  | schedule need => exact h.schedule need
  | join id q unknown current underWay =>
      obtain ⟨l, hl, -⟩ := isUnderWay_iff.mp underWay
      refine h.addWaiter fun i hi => ?_
      cases hi
      exact (List.getElem?_eq_some_iff.mp hl).1
  | demand id q need =>
      refine (h.schedule need).addWaiter fun i hi => ?_
      cases hi
      simp [Registry.schedule]
  | reply id q known =>
      refine h.addWaiter fun i hi => ?_
      cases hi
  | enter load pending =>
      have running := isOver_of_pending pending
      exact h.setLoad load running running rfl
  | reach => exact { h with }
  | edit loading => exact { h with }
  | finish load pending begun reachable => exact h.finish load (isOver_of_pending pending)
  | halt load pending => exact h.setLoad load (isOver_of_pending pending) rfl rfl
  | drop load stopping => exact h.drop load (isOver_of_stopping stopping)
  | settle id told due => exact h.settleWaiter id _
  | nextLoop => exact h.nextLoop

theorem Consistent.run {r : Registry} (h : r.Consistent) (as : List Action) :
    (r.run as).Consistent :=
  run_keeps Consistent.move h as

/-- What every move of a consistent registry keeps, every run of one keeps. -/
theorem Consistent.run_keeps {P : Registry → Prop}
    (keep : ∀ {s s' : Registry} {a : Action}, s.Consistent → P s → Move s a s' → P s')
    {r : Registry} (h : r.Consistent) (hp : P r) (as : List Action) : P (r.run as) := by
  have both : ∀ {s s' : Registry} {a : Action}, s.Consistent ∧ P s → Move s a s' →
      s'.Consistent ∧ P s' := by
    rintro s s' a ⟨hs, hp⟩ m
    exact ⟨hs.move m, keep hs hp m⟩
  exact (Registry.run_keeps both ⟨h, hp⟩ as).2

/-! ### What is known stays -/

theorem Consistent.not_running_of_known {r : Registry} (h : r.Consistent)
    (known : r.phase ≠ .uninitialized) {i : Nat} {l : Load} (hi : r.loads[i]? = some l)
    (hl : l.progress.isOver = false) : False := by
  rw [h.isOver_of_known known hi] at hl
  cases hl

/-- Once something is known of the document, nothing else will be. -/
theorem Consistent.phase_of_known {r r' : Registry} {a : Action} (h : r.Consistent)
    (known : r.phase ≠ .uninitialized) (m : Move r a r') : r'.phase = r.phase := by
  cases m with
  | finish load pending begun reachable =>
      exact (h.not_running_of_known known load (isOver_of_pending pending)).elim
  | rest | schedule | join | demand | reply | enter | reach | edit | halt | drop | settle | nextLoop => rfl

/-- Once something is known of the document, no load begins, ends or is cancelled. -/
theorem Consistent.loads_of_known {r r' : Registry} {a : Action} (h : r.Consistent)
    (known : r.phase ≠ .uninitialized) (m : Move r a r') : r'.loads = r.loads := by
  cases m with
  | schedule need | demand _ _ need => exact absurd need.1 known
  | enter load pending | finish load pending | halt load pending =>
      exact (h.not_running_of_known known load (isOver_of_pending pending)).elim
  | drop load stopping =>
      exact (h.not_running_of_known known load (isOver_of_stopping stopping)).elim
  | nextLoop =>
      -- there is nothing left that the end of the loop could cancel
      have ended : ∀ l ∈ r.loads,
          (if l.progress.isOver then l else { l with progress := .cancelled }) = id l := by
        intro l hl
        obtain ⟨i, hi⟩ := List.mem_iff_getElem?.mp hl
        exact if_pos (h.isOver_of_known known hi)
      exact (List.map_congr_left ended).trans (List.map_id r.loads)
  | rest | join | reply | reach | edit | settle => rfl

/-- What is known stays, and the loads stay as they are. -/
theorem Consistent.run_of_known {r : Registry} (h : r.Consistent)
    (known : r.phase ≠ .uninitialized) (as : List Action) :
    (r.run as).phase = r.phase ∧ (r.run as).loads = r.loads := by
  refine h.run_keeps (P := fun s => s.phase = r.phase ∧ s.loads = r.loads) ?_ ⟨rfl, rfl⟩ as
  rintro s s' a hs ⟨hp, hl⟩ m
  have hk : s.phase ≠ .uninitialized := by rwa [hp]
  exact ⟨(hs.phase_of_known hk m).trans hp, (hs.loads_of_known hk m).trans hl⟩

/-! ### At the beginning -/

/-- A path that is not empty is that of a document of which nothing is known. -/
theorem new_of_ne {template : String} (hne : template ≠ "") (limit : Option Limit) (loading : String → Loading)
    (reachable : Bool) : Registry.new (some template) limit loading reachable =
      { path := some (Path.normal template), limit, loading := loading (Path.normal template), reachable,
        phase := .uninitialized } := by
  unfold Registry.new
  split
  case h_1 h => cases h
  case h_2 h => exact absurd (Option.some.inj h) hne
  case h_3 h =>
      cases h
      rfl

theorem Consistent.new (template : Option String) (limit : Option Limit)
    (loading : String → Loading) (reachable : Bool) :
    (Registry.new template limit loading reachable).Consistent := by
  have empty : ∀ r : Registry, r.loads = [] → r.current = none → r.waiters = [] → r.Consistent := by
    intro r hl hc hw
    refine ⟨?_, ?_, ?_, ?_, ?_, ?_⟩ <;> simp [hl, hc, hw, waiterIds]
  unfold Registry.new
  split <;> exact empty _ rfl rfl rfl

end SqlMapper.Mapper.Registry
