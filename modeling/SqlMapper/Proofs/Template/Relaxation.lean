import Mathlib
import SqlMapper.Template.Frame
import SqlMapper.Proofs.Template.FragmentLinking
import SqlMapper.Proofs.Value.Relaxed
/-!
# SqlMapper.Proofs.Template.Relaxation

Runs side by side, one in which absent values are strict and one in which they are not. A step of the second
simulates one of the first (`Run.Simulates`) if it goes through whenever the first does, and gives the relaxed
outcome and the relaxed store. Here are the rules by which such steps are put together, and that frames are
read, written and entered in this way.

Both runs add the same cells in the same order, so references are equal on both sides. The cells are frames
and the states of loops: the fragment makes no others, so none is a stream that would be used up.
-/

namespace SqlMapper.Template

open Value (RelaxedAll)

/-! ### Stores -/

/-- The second cell is the first one with relaxed values. No part of a loop's state but its presence matters. -/
inductive Cell.Relaxed : Cell → Cell → Prop
  | frame {slots slots' : List (Option Value)} (all : List.Forall₂ (Option.Rel Value.Relaxed) slots slots') :
    Relaxed (.frame slots) (.frame slots')
  | loop (s t : LoopState) : Relaxed (.loop s) (.loop t)

/-- The second store is the first one with relaxed cells. -/
def Store.Relaxed (s t : Store) : Prop := List.Forall₂ Cell.Relaxed s.cells.toList t.cells.toList

section Lists

variable {α β : Type} {R : α → β → Prop} {as : List α} {bs : List β}

theorem forall₂_getElem? (h : List.Forall₂ R as bs) (i : Nat) : Option.Rel R as[i]? bs[i]? := by
  induction h generalizing i with
  | nil => exact .none
  | cons head tail ih =>
      cases i with
      | zero => exact .some head
      | succ i => exact ih i

theorem forall₂_set (h : List.Forall₂ R as bs) (i : Nat) {a : α} {b : β} (hab : R a b) :
    List.Forall₂ R (as.set i a) (bs.set i b) := by
  induction h generalizing i with
  | nil => exact .nil
  | cons head tail ih =>
      cases i with
      | zero => exact .cons hab tail
      | succ i => exact .cons head (ih i)

end Lists

namespace Store.Relaxed

variable {s t : Store} {c d : Cell}

theorem getD (h : s.Relaxed t) (ref : Nat) :
    Cell.Relaxed (s.cells.getD ref (.frame [])) (t.cells.getD ref (.frame [])) := by
  have hcell := forall₂_getElem? h ref
  simp only [Array.getElem?_toList] at hcell
  rw [Array.getD_eq_getD_getElem?, Array.getD_eq_getD_getElem?]
  generalize s.cells[ref]? = found, t.cells[ref]? = found' at hcell ⊢
  cases hcell with
  | some hcd => exact hcd
  | none => exact .frame .nil

theorem push (h : s.Relaxed t) (hcd : c.Relaxed d) :
    Store.Relaxed { cells := s.cells.push c } { cells := t.cells.push d } := by
  unfold Store.Relaxed
  rw [Array.toList_push, Array.toList_push]
  exact List.rel_append h (.cons hcd .nil)

theorem set (h : s.Relaxed t) (ref : Nat) (hcd : c.Relaxed d) :
    Store.Relaxed { cells := s.cells.setIfInBounds ref c } { cells := t.cells.setIfInBounds ref d } := by
  unfold Store.Relaxed
  rw [Array.toList_setIfInBounds, Array.toList_setIfInBounds]
  exact forall₂_set h ref hcd

theorem size_eq (h : s.Relaxed t) : s.cells.size = t.cells.size := by
  simpa using h.length_eq

end Store.Relaxed

/-! ### Steps -/

namespace Run

variable {α α' β β' : Type}

/-- Whenever the first step goes through, the second does; what it gives is related, and stores stay relaxed. -/
def Simulates (R : α → β → Prop) (m : Run α) (n : Run β) : Prop :=
  ∀ s t : Store, s.Relaxed t → ∀ (a : α) (s' : Store), m s = .ok (a, s') →
    ∃ b t', n t = .ok (b, t') ∧ R a b ∧ s'.Relaxed t'

variable {R : α → β → Prop} {S : α' → β' → Prop}

theorem Simulates.pure {a : α} {b : β} (h : R a b) : Simulates R (Pure.pure a) (Pure.pure b) := by
  intro s t hst a' s' hm
  cases hm
  exact ⟨b, t, rfl, h, hst⟩

theorem Simulates.bind {m : Run α} {n : Run β} {f : α → Run α'} {g : β → Run β'} (h : Simulates R m n)
    (hfg : ∀ a b, R a b → Simulates S (f a) (g b)) : Simulates S (m >>= f) (n >>= g) := by
  intro s t hst a' s'' hm
  obtain ⟨a, s', hfirst, hsecond⟩ := bind_apply_eq_ok_iff.mp hm
  obtain ⟨b, t', hfirst, hab, hst'⟩ := h s t hst a s' hfirst
  obtain ⟨b', t'', hsecond, hab', hst''⟩ := hfg a b hab s' t' hst' a' s'' hsecond
  exact ⟨b', t'', bind_apply_eq_ok_iff.mpr ⟨b, t', hfirst, hsecond⟩, hab', hst''⟩

/-- A step that fails is simulated by any. -/
theorem Simulates.fails (e : Stop) (n : Run β) : Simulates R (throw e) n := by
  intro s t _ a s' hm
  cases hm

theorem Simulates.fails_bind (e : Failure) (f : α → Run α') (n : Run β') :
    Simulates S (Template.fail e >>= f) n := by
  intro s t _ a s' hm
  cases hm

theorem Simulates.liftResult {r : Result α} {r' : Result β}
    (h : ∀ a, r = .ok a → ∃ b, r' = .ok b ∧ R a b) :
    Simulates R (Template.liftResult r) (Template.liftResult r') := by
  intro s t hst a s' hm
  cases r with
  | error e => cases hm
  | ok a =>
      obtain ⟨b, rfl, hab⟩ := h a rfl
      cases hm
      exact ⟨b, t, rfl, hab, hst⟩

theorem Simulates.mapM {as : List α'} {bs : List β'} {f : α' → Run α} {g : β' → Run β}
    (h : List.Forall₂ S as bs) (hfg : ∀ a b, S a b → Simulates R (f a) (g b)) :
    Simulates (List.Forall₂ R) (as.mapM f) (bs.mapM g) := by
  induction h with
  | nil => exact .pure .nil
  | cons head tail ih =>
      rw [List.mapM_cons, List.mapM_cons]
      exact (hfg _ _ head).bind fun a b hab => ih.bind fun as bs habs => .pure (.cons hab habs)

theorem Simulates.foldlM {as : List α'} {bs : List β'} {f : α → α' → Run α} {g : β → β' → Run β}
    (h : List.Forall₂ S as bs)
    (hfg : ∀ acc acc' a b, R acc acc' → S a b → Simulates R (f acc a) (g acc' b)) {acc : α} {acc' : β}
    (hacc : R acc acc') : Simulates R (as.foldlM f acc) (bs.foldlM g acc') := by
  induction h generalizing acc acc' with
  | nil => exact .pure hacc
  | cons head tail ih =>
      rw [List.foldlM_cons, List.foldlM_cons]
      exact (hfg _ _ _ _ hacc head).bind fun acc acc' hacc => ih hacc

theorem Simulates.filterM {as : List α} {bs : List β} {p : α → Run Bool} {q : β → Run Bool}
    (h : List.Forall₂ R as bs) (hpq : ∀ a b, R a b → Simulates Eq (p a) (q b)) :
    Simulates (List.Forall₂ R) (as.filterM p) (bs.filterM q) := by
  -- what has been kept so far is an argument of the loop, the last element first
  have hkept : ∀ {kept : List α} {kept' : List β}, List.Forall₂ R kept kept' →
      Simulates (List.Forall₂ R) (as.filterAuxM p kept) (bs.filterAuxM q kept') := by
    induction h with
    | nil => exact fun hkept => .pure hkept
    | cons head tail ih =>
        intro kept kept' hkept
        refine (hpq _ _ head).bind fun b b' hb => ?_
        subst hb
        cases b with
        | true => exact ih (.cons head hkept)
        | false => exact ih hkept
  exact (hkept .nil).bind fun as bs has => .pure (List.rel_reverse has)

/-! ### Cells -/

theorem Simulates.get (ref : Nat) : Simulates Cell.Relaxed (Store.get ref) (Store.get ref) := by
  intro s t hst c s' hm
  cases hm
  exact ⟨_, t, rfl, hst.getD ref, hst⟩

theorem Simulates.put (ref : Nat) {c d : Cell} (h : c.Relaxed d) :
    Simulates Eq (Store.put ref c) (Store.put ref d) := by
  intro s t hst u s' hm
  cases hm
  exact ⟨⟨⟩, _, rfl, rfl, hst.set ref h⟩

theorem Simulates.alloc {c d : Cell} (h : c.Relaxed d) : Simulates Eq (Store.alloc c) (Store.alloc d) := by
  intro s t hst ref s' hm
  cases hm
  exact ⟨_, _, rfl, hst.size_eq, hst.push h⟩

theorem Simulates.slot (ref slot : Nat) :
    Simulates (Option.Rel Value.Relaxed) (Store.slot ref slot) (Store.slot ref slot) := by
  refine (Simulates.get ref).bind fun c d hcd => ?_
  cases hcd with
  | frame all =>
      refine .pure ?_
      rename_i slots slots'
      have hslot := forall₂_getElem? all slot
      generalize slots[slot]? = found, slots'[slot]? = found' at hslot ⊢
      cases hslot with
      | some h => exact h
      | none => exact .none
  | loop s t => exact .pure .none

theorem Simulates.setSlot (ref slot : Nat) {v w : Value} (h : v.Relaxed w) :
    Simulates Eq (Store.setSlot ref slot v) (Store.setSlot ref slot w) := by
  refine (Simulates.get ref).bind fun c d hcd => ?_
  cases hcd with
  | frame all => exact .put ref (.frame (forall₂_set all slot (.some h)))
  | loop s t => exact .pure rfl

/-- There are no streams to be used up. -/
theorem Simulates.drain (ref : Nat) : Simulates RelaxedAll (Store.drain ref) (Store.drain ref) := by
  refine (Simulates.get ref).bind fun c d hcd => ?_
  cases hcd with
  | frame all => exact .pure .nil
  | loop s t => exact .pure .nil

/-- A value is a stream on both sides, or on neither. -/
theorem stream_or_not {v w : Value} (h : v.Relaxed w) :
    (∃ type ref, v = .cell (.stream type) ref ∧ w = .cell (.stream type) ref) ∨
      (∀ type ref, v ≠ .cell (.stream type) ref) ∧ ∀ type ref, w ≠ .cell (.stream type) ref := by
  by_cases hv : ∃ type ref, v = .cell (.stream type) ref
  · obtain ⟨type, ref, rfl⟩ := hv
    cases h
    exact .inl ⟨type, ref, rfl, rfl⟩
  · refine .inr ⟨fun type ref hv' => hv ⟨type, ref, hv'⟩, ?_⟩
    rintro type ref rfl
    cases h
    exact hv ⟨type, ref, rfl⟩

theorem items_of_not_stream {v : Value} (h : ∀ type ref, v ≠ .cell (.stream type) ref) :
    Store.items v = Template.liftResult v.items := by
  unfold Store.items
  split
  · exact absurd rfl (h _ _)
  · rfl

/-- Reading the elements of a value. -/
theorem Simulates.items {v w : Value} (h : v.Relaxed w) :
    Simulates RelaxedAll (Store.items v) (Store.items w) := by
  rcases stream_or_not h with ⟨type, ref, rfl, rfl⟩ | ⟨hv, hw⟩
  · exact .drain ref
  · rw [items_of_not_stream hv, items_of_not_stream hw]
    exact .liftResult fun xs hxs => h.items_eq hxs

end Run

/-! ### Frames -/

open Run (Simulates)

/-- The context of a run in which absent values are lenient. -/
def Context.lenient (ctx : Context) : Context := { ctx with strict := false }

variable {ctx : Context} {frames : Frames} {v w : Value}

theorem Place.write_simulates (frames : Frames) (p : Place) (h : v.Relaxed w) :
    Simulates Eq (p.write frames v) (p.write frames w) := by
  unfold Place.write
  split
  · exact .setSlot _ _ h
  · exact .pure rfl

theorem checkCount_simulates (n : Nat) {xs ys : List Value} (h : RelaxedAll xs ys) :
    Simulates RelaxedAll (unpack.checkCount n xs) (unpack.checkCount n ys) := by
  unfold unpack.checkCount
  dsimp only
  rw [← h.length_eq]
  split
  · exact .fails_bind _ _ _
  · split
    · exact .fails_bind _ _ _
    · exact .pure h

theorem unpack_simulates (n : Nat) (h : v.Relaxed w) : Simulates RelaxedAll (unpack n v) (unpack n w) := by
  rcases Run.stream_or_not h with ⟨type, ref, rfl, rfl⟩ | ⟨hv, hw⟩
  · exact (Simulates.drain ref).bind fun xs ys h => checkCount_simulates n h
  · cases hitems : v.items with
    | error e =>
        -- without elements there is nothing to be assigned, and the first run ends here
        intro s t _ xs s' hm
        unfold unpack at hm
        split at hm
        · exact absurd rfl (hv _ _)
        · rw [hitems] at hm
          cases e <;> cases hm
    | ok xs =>
        obtain ⟨ys, hys, hall⟩ := h.items_eq hitems
        have heq : ∀ {u : Value} {zs : List Value}, (∀ type ref, u ≠ .cell (.stream type) ref) →
            u.items = .ok zs → unpack n u = unpack.checkCount n zs := by
          intro u zs hu hzs
          unfold unpack
          split
          · exact absurd rfl (hu _ _)
          · rw [hzs]
        rw [heq hv hitems, heq hw hys]
        exact checkCount_simulates n hall

mutual

/-- Assigning to variables. -/
theorem Target.assign_simulates (frames : Frames) {v w : Value} (h : v.Relaxed w) (t : Target Place)
    (ht : t.isBasic = true) : Simulates Eq (t.assign ctx frames v) (t.assign ctx.lenient frames w) := by
  cases t with
  | var p => exact p.write_simulates frames h
  | field => cases ht
  | tuple ts => exact (unpack_simulates ts.length h).bind fun xs ys h => assignAll_simulates frames h ts ht

theorem assignAll_simulates (frames : Frames) {xs ys : List Value} (h : RelaxedAll xs ys)
    (ts : List (Target Place)) (hts : allTargetsBasic ts = true) :
    Simulates Eq (assignAll ctx frames xs ts) (assignAll ctx.lenient frames ys ts) := by
  cases ts with
  | nil => exact .pure rfl
  | cons t ts =>
      obtain ⟨ht, hts⟩ := Bool.and_eq_true_iff.mp hts
      have hhead : (xs.headD .null).Relaxed (ys.headD .null) := by
        cases h with
        | nil => exact .same _
        | cons head tail => exact head
      have htail : RelaxedAll xs.tail ys.tail := by
        cases h with
        | nil => exact .nil
        | cons head tail => exact tail
      exact (t.assign_simulates frames hhead ht).bind fun _ _ _ => assignAll_simulates frames htail ts hts

end

mutual

/-- Variables are no fields of records. -/
theorem Target.checkRecords_eq (ctx : Context) (frames : Frames) (t : Target Place) (ht : t.isBasic = true) :
    t.checkRecords ctx frames = pure ⟨⟩ := by
  cases t with
  | var => rfl
  | field => cases ht
  | tuple ts => exact checkAllRecords_eq ctx frames ts ht

theorem checkAllRecords_eq (ctx : Context) (frames : Frames) (ts : List (Target Place))
    (hts : allTargetsBasic ts = true) : checkAllRecords ctx frames ts = pure ⟨⟩ := by
  cases ts with
  | nil => rfl
  | cons t ts =>
      obtain ⟨ht, hts⟩ := Bool.and_eq_true_iff.mp hts
      rw [checkAllRecords, t.checkRecords_eq ctx frames ht, pure_bind, checkAllRecords_eq ctx frames ts hts]

end

end SqlMapper.Template
