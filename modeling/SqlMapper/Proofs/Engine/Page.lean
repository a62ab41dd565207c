import Mathlib
import SqlMapper.Gateway
/-!
# SqlMapper.Proofs.Engine.Page

What calls leave of a page. One call has four ways to end (`Completes`), and only the one that reads rows sets
the page's items; a count of zero leaves them as they came. So what a page holds after several calls are the
rows that were read last (`items_eq_itemsLeft`), be it that a later count was zero: a page without items stays
without items when the count is zero, but one that was filled before keeps the rows of the earlier call
(`items_of_zero_count`, `not_bare_of_zero_count`).
-/

namespace SqlMapper

/-! ### One call -/

/-- What a call makes of a page, as far as it gets. -/
inductive Completes (p : Paging) : PageOutcome → Prop
  /-- The rows have not been counted. -/
  | failed (e : Error) : Completes p { page := p, error := some e }
  | nothing (n : Int) (none : n ≤ 0) : Completes p { page := { p with count := some n } }
  /-- The rows have been counted, but not read. -/
  | counted (n : Int) (positive : 0 < n) (e : Error) :
      Completes p { page := { p with count := some n }, error := some e }
  | read (n : Int) (positive : 0 < n) (rows : List Value) :
      Completes p { page := { p with count := some n, items := some rows } }

theorem Engine.paginate_completes (e : Engine) (sql : String) (p : Paging) (params : Template.Params)
    (s : Session) : Completes p ((e.paginate sql p params).run s).1 := by
  unfold Engine.paginate
  rw [StateT.run_bind]
  generalize (e.count sql params).run.run s = counted
  obtain ⟨count, s⟩ := counted
  cases count with
  | error err => exact .failed err
  | ok n =>
      dsimp only [bind, Id.run]
      by_cases hn : n ≤ 0
      · rw [if_pos hn]
        exact .nothing n hn
      · rw [if_neg hn]
        have hpositive : 0 < n := by omega
        change Completes p (((_ >>= _ : StateM Session PageOutcome)).run s).1
        rw [StateT.run_bind]
        generalize (e.window sql { p with count := some n } params).run.run s = window
        obtain ⟨rows, s⟩ := window
        cases rows with
        | error err => exact .counted n hpositive err
        | ok rows => exact .read n hpositive rows

/-- A call for a page: of free SQL, or of a statement by name. -/
inductive PageCall
  | text (sql : String) (params : Template.Params)
  | named (name : String) (params : Template.Params)

namespace PageCall

/-- Make the call for a page. -/
def run : PageCall → Paging → StateM Gateway PageOutcome
  | text sql params, p => Gateway.selectPage sql p params
  | named name params, p => Gateway.invokePage name p params

end PageCall

theorem Gateway.selectPage_completes (sql : String) (p : Paging) (params : Template.Params) (g : Gateway) :
    Completes p ((selectPage sql p params).run g).1 :=
  g.engine.paginate_completes sql p params g.session

theorem Gateway.invokePage_completes (name : String) (p : Paging) (params : Template.Params)
    (g : Gateway) : Completes p ((invokePage name p params).run g).1 := by
  unfold invokePage
  rw [StateT.run_bind]
  generalize (pageText name params).run.run g = text
  obtain ⟨text, g⟩ := text
  cases text with
  | error e => exact .failed e
  | ok sql => exact selectPage_completes sql p params g

theorem PageCall.completes (c : PageCall) (p : Paging) (g : Gateway) : Completes p ((c.run p).run g).1 := by
  cases c with
  | text sql params => exact Gateway.selectPage_completes sql p params g
  | named name params => exact Gateway.invokePage_completes name p params g

/-! ### Items -/

namespace Paging

/-- Has a page no items? -/
def isBare (p : Paging) : Bool := p.items.all List.isEmpty

end Paging

namespace PageOutcome

/-- The rows that a call has read. -/
def rows? (o : PageOutcome) : Option (List Value) :=
  if o.error.isNone ∧ o.page.count.any (0 < ·) then o.page.items else none

end PageOutcome

/-- What a page holds after calls, given what it came with: the rows that were read last. -/
def itemsLeft (items : Option (List Value)) (os : List PageOutcome) : Option (List Value) :=
  (os.filterMap PageOutcome.rows?).getLast?.or items

@[simp] theorem itemsLeft_nil (items : Option (List Value)) : itemsLeft items [] = items := rfl

theorem itemsLeft_cons (items : Option (List Value)) (o : PageOutcome) (os : List PageOutcome) :
    itemsLeft items (o :: os) = itemsLeft (o.rows?.or items) os := by
  unfold itemsLeft
  cases h : o.rows? with
  | none => rw [List.filterMap_cons_none h]; rfl
  | some rows =>
      rw [List.filterMap_cons_some h, List.getLast?_cons]
      cases (os.filterMap PageOutcome.rows?).getLast? <;> rfl

variable {p : Paging} {o : PageOutcome}

/-- Only rows that are read become items. -/
theorem Completes.items_eq (h : Completes p o) : o.page.items = o.rows?.or p.items := by
  cases h with
  | failed e => simp [PageOutcome.rows?]
  | nothing n hn => simp [PageOutcome.rows?, Int.not_lt.mpr hn]
  | counted n hn e => simp [PageOutcome.rows?]
  | read n hn rows => simp [PageOutcome.rows?, hn]

theorem PageOutcome.rows?_of_zero_count (zero : o.page.count = some 0) : o.rows? = none := by
  simp [rows?, zero]

theorem itemsLeft_concat (items : Option (List Value)) (os : List PageOutcome) (o : PageOutcome) :
    itemsLeft items (os ++ [o]) = o.rows?.or (itemsLeft items os) := by
  unfold itemsLeft
  cases h : o.rows? with
  | none => simp [h]
  | some rows => simp [h]

/-! ### Calls on one page -/

/-- Calls on one page, one after the other: each takes the page as the call before has left it. -/
def PageCall.runAll : List PageCall → Paging → StateM Gateway (List PageOutcome)
  | [], _ => return []
  | c :: cs, p => do
    let o ← c.run p
    return o :: (← runAll cs o.page)

theorem PageCall.runAll_cons (c : PageCall) (cs : List PageCall) (p : Paging) (g : Gateway) :
    ((runAll (c :: cs) p).run g).1 =
      ((c.run p).run g).1 :: ((runAll cs ((c.run p).run g).1.page).run ((c.run p).run g).2).1 := rfl

/-- After each call a page holds the rows that were read last. -/
theorem items_eq_itemsLeft {calls : List PageCall} {g : Gateway} {k : Nat}
    (hk : ((PageCall.runAll calls p).run g).1[k]? = some o) :
    o.page.items = itemsLeft p.items (((PageCall.runAll calls p).run g).1.take (k + 1)) := by
  -- along the calls: what the first one leaves is what the others come with
  induction calls generalizing p g k with
  | nil => cases hk
  | cons c cs ih =>
      rw [PageCall.runAll_cons] at hk ⊢
      have hfirst := (c.completes p g).items_eq
      rw [List.take_succ_cons, itemsLeft_cons, ← hfirst]
      cases k with
      | zero =>
          cases hk
          rw [List.take_zero, itemsLeft_nil]
      | succ k => exact ih hk

/-- **A count of zero leaves the items of a page as they are.** After calls on a page, if its count is zero,
it holds the rows that an earlier call has read last, or else the items that it came with; so it is without
items exactly if these are none. -/
theorem items_of_zero_count (g : Gateway) (p : Paging) (calls : List PageCall) (k : Nat) (o : PageOutcome)
    (hk : ((PageCall.runAll calls p).run g).1[k]? = some o) (zero : o.page.count = some 0) :
    let left := itemsLeft p.items (((PageCall.runAll calls p).run g).1.take k)
    o.page.items = left ∧ (o.page.isBare = true ↔ ∀ rows, left = some rows → rows = []) := by
  intro left
  have hitems : o.page.items = left := by
    rw [items_eq_itemsLeft hk, List.take_add_one, hk, Option.toList_some, itemsLeft_concat,
      o.rows?_of_zero_count zero, Option.none_or]
  refine ⟨hitems, ?_⟩
  unfold Paging.isBare
  rw [hitems]
  cases left with
  | none => simp
  | some rows => simp

/-- A page is filled, and then counted again when there are no rows any more. -/
def secondCount : Gateway × List PageCall :=
  (.new {} Catalogue.person [] none none false (fun _ => none)
      [.rows [[("count", .int 1)]] (-1), .rows [[("id", .int 7)]] (-1), .rows [[("count", .int 0)]] (-1)],
    [.text "select id from person" [], .text "select id from person" []])

theorem outcome_secondCount : ((PageCall.runAll secondCount.2 {}).run secondCount.1).1[1]? =
    some { page := { count := some 0, items := some [.dict [(.str "id", .int 7)]] } } := by cbv

theorem items_of_zero_count_after_rows :
    ∃ o, ((PageCall.runAll secondCount.2 {}).run secondCount.1).1[1]? = some o ∧ o.page.count = some 0 ∧
      o.page.items = itemsLeft none (((PageCall.runAll secondCount.2 {}).run secondCount.1).1.take 1) :=
  ⟨_, outcome_secondCount, rfl, (items_of_zero_count _ _ _ _ _ outcome_secondCount rfl).1⟩

/-- The rows of an earlier call stay in a page whose count is zero. -/
theorem not_bare_of_zero_count :
    ¬ ∀ (g : Gateway) (p : Paging) (calls : List PageCall) (k : Nat) (o : PageOutcome),
      ((PageCall.runAll calls p).run g).1[k]? = some o → o.error = none → o.page.count = some 0 →
        o.page.isBare = true := by
  intro h
  have hbare := h _ _ _ _ _ outcome_secondCount rfl rfl
  exact absurd hbare (by decide)

end SqlMapper
