import SqlMapper.Proofs.Registry.Invariant
/-!
# SqlMapper.Proofs.Registry.Quiescence

Some actions happen of themselves: loads take their first step, end or stop, and waiters notice it. A
registry is quiescent when no such action changes it (`Quiescent`), which is to say that every running load
waits for a document that cannot be had, and that no waiter has anything to notice (`quiescent_iff`).
-/

namespace SqlMapper.Mapper

/-- Does an action happen without anybody's doing? -/
def Action.isSpontaneous : Action → Bool
  | .enter _ | .finish _ | .stop _ | .wake _ => true
  | _ => false

namespace Registry

/-- Nothing happens any more without somebody's doing. -/
def Quiescent (r : Registry) : Prop := ∀ a : Action, a.isSpontaneous = true → r.apply a = r

/-! ### Quiescence, by the state -/

/-- Replacing a load by itself changes nothing. -/
theorem setLoad_self {r : Registry} {i : Nat} {l : Load} (hi : r.loads[i]? = some l) :
    r.setLoad i l = r := by
  have same : r.loads.set i l = r.loads := by
    refine List.ext_getElem? fun j => ?_
    rw [getElem?_set_load hi l j]
    split
    case isTrue hij => rw [← hij, hi]
    case isFalse => rfl
  unfold setLoad
  rw [same]

/-- A waiter that is given an answer does not remain as it was. -/
theorem settleWaiter_ne {r : Registry} {w : Waiter} (hw : w ∈ r.waiters) {i : Nat}
    (hb : w.waiting = .blocked i) (a : Answer) : r.settleWaiter w.id a ≠ r := by
  intro same
  have hmap : r.waiters.map (fun v =>
      if v.id = w.id ∧ v.load?.isSome then { v with waiting := .answered a } else v) =
        r.waiters.map id := by
    rw [List.map_id]
    exact congrArg Registry.waiters same
  have hself := List.map_inj_left.mp hmap w hw
  rw [if_pos ⟨rfl, by simp [Waiter.load?, hb]⟩] at hself
  have hwaiting := congrArg Waiter.waiting hself
  rw [id_eq, hb] at hwaiting
  cases hwaiting

theorem blocked_of_wakeAnswer? {r : Registry} {w : Waiter} {a : Answer}
    (h : r.wakeAnswer? w = some a) : ∃ i, w.waiting = .blocked i := by
  unfold wakeAnswer? Waiter.load? at h
  cases hb : w.waiting with
  | blocked i => exact ⟨i, rfl⟩
  | answered b => simp [hb] at h

/-- A waiter whose load is over has something to notice. -/
theorem wakeAnswer?_of_isOver {r : Registry} {w : Waiter} {i : Nat} {l : Load}
    (hb : w.waiting = .blocked i) (hi : r.loads[i]? = some l) (hl : l.progress.isOver = true) :
    ∃ a, r.wakeAnswer? w = some a := by
  have hload : w.load?.bind (r.loads[·]?) = some l := by
    simp [Waiter.load?, hb, hi]
  unfold wakeAnswer?
  rw [hload]
  cases hp : l.progress with
  | ended => exact ⟨r.answer w.request, by simp [hp]⟩
  | cancelled => exact ⟨.cancelled, by simp [hp]⟩
  | pending | stopping =>
      rw [hp] at hl
      cases hl

/-- Every running load waits for a document that cannot be had, and no waiter has anything to notice. -/
structure Calm (r : Registry) : Prop where
  not_stopping : ∀ (i : Nat) (l : Load), r.loads[i]? = some l → l.progress ≠ .stopping
  begun : ∀ (i : Nat) (l : Load), r.loads[i]? = some l → l.progress = .pending → l.begun = true
  unreachable : ∀ (i : Nat) (l : Load), r.loads[i]? = some l → l.progress = .pending →
    r.reachable = false
  nothing_to_notice : ∀ id, (r.waiter? id).bind r.wakeAnswer? = none

theorem Calm.quiescent {r : Registry} (h : r.Calm) : r.Quiescent := by
  intro a ha
  cases a with
  | enter i =>
      simp only [apply]
      split
      case _ l hl =>
          obtain ⟨hl, hp⟩ := load?_eq_some.mp hl
          have hb := h.begun i l hl hp
          rw [show ({ l with begun := true } : Load) = l by rw [← hb], setLoad_self hl]
      case _ => rfl
  | finish i =>
      simp only [apply]
      split
      case _ l hl =>
          obtain ⟨hl, hp⟩ := load?_eq_some.mp (Option.filter_eq_some_iff.mp hl).1
          rw [h.unreachable i l hl hp]
          rfl
      case _ => rfl
  | stop i =>
      simp only [apply]
      split
      case _ l hl =>
          obtain ⟨hl, hp⟩ := load?_eq_some.mp hl
          exact absurd hp (h.not_stopping i l hl)
      case _ => rfl
  | wake id =>
      simp only [apply]
      rw [h.nothing_to_notice id]
  | start | ask | reach | edit | cancelLoad | cancel | elapse | nextLoop => cases ha

theorem Quiescent.calm {r : Registry} (h : r.Quiescent) : r.Calm := by
  -- a load that is replaced is still the old one
  have same : ∀ {i : Nat} {l l' : Load} {s : Registry}, r.loads[i]? = some l → s = r →
      s.loads = r.loads.set i l' → l' = l := by
    intro i l l' s hi hs hloads
    have hget := getElem?_set_load hi l' i
    rw [← hloads, hs, hi, if_pos rfl] at hget
    exact (Option.some.inj hget).symm
  have begun : ∀ (i : Nat) (l : Load), r.loads[i]? = some l → l.progress = .pending →
      l.begun = true := by
    intro i l hi hp
    have hq := h (.enter i) rfl
    simp only [apply, load?_eq_some.mpr ⟨hi, hp⟩] at hq
    rw [← same hi hq rfl]
  refine
    { not_stopping := ?_
      begun := begun
      unreachable := ?_
      nothing_to_notice := ?_ }
  · intro i l hi hp
    have hq := h (.stop i) rfl
    simp only [apply, load?_eq_some.mpr ⟨hi, hp⟩] at hq
    have hl := same hi hq rfl
    rw [← hl] at hp
    cases hp
  · intro i l hi hp
    have hq := h (.finish i) rfl
    simp only [apply, load?_eq_some.mpr ⟨hi, hp⟩, Option.filter_some, begun i l hi hp,
      if_true] at hq
    cases hr : r.reachable with
    | false => rfl
    | true =>
        rw [hr, if_pos rfl] at hq
        have hl := same hi hq rfl
        rw [← hl] at hp
        cases hp
  · intro id
    cases ha : (r.waiter? id).bind r.wakeAnswer? with
    | none => rfl
    | some a =>
        have hq := h (.wake id) rfl
        simp only [apply, ha] at hq
        obtain ⟨w, hw, hwa⟩ := Option.bind_eq_some_iff.mp ha
        obtain ⟨hmem, hid⟩ := mem_of_waiter? hw
        obtain ⟨i, hb⟩ := blocked_of_wakeAnswer? hwa
        rw [← hid] at hq
        exact absurd hq (settleWaiter_ne hmem hb a)

/-- A registry is quiescent if and only if it is calm. -/
theorem quiescent_iff {r : Registry} : r.Quiescent ↔ r.Calm :=
  ⟨Quiescent.calm, Calm.quiescent⟩

end Registry
end SqlMapper.Mapper
