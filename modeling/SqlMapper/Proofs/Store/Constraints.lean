import SqlMapper.Store.Entities
import SqlMapper.Proofs.Value.Outcome
/-!
# SqlMapper.Proofs.Store.Constraints

The constraints of a table (`Relation.Admits`): no two rows have the same key, and no column that refuses NULL is
empty. A table that is written is checked for exactly that (`checked_eq_ok_iff`), whatever the order in which its rows
are then kept: equality of cells is symmetric, so that it does not matter which of two rows comes first.
-/

namespace SqlMapper

/-! ### Equal cells -/

theorem compareTexts_eq_iff {as bs : List Char} : compareTexts as bs = .eq ↔ as = bs := by
  induction as generalizing bs with
  | nil => cases bs <;> simp [compareTexts]
  | cons a as ih =>
      cases bs with
      | nil => simp [compareTexts]
      | cons b bs =>
          rw [compareTexts]
          rcases lt_trichotomy a b with hab | rfl | hab
          · simp [hab, hab.ne]
          · simp [ih]
          · simp [hab, hab.ne', not_lt_of_gt hab]

theorem compareBytes_eq_comm {as bs : List UInt8} : compareBytes as bs = .eq ↔ compareBytes bs as = .eq := by
  rw [compareBytes, compareBytes, compareTexts_eq_iff, compareTexts_eq_iff]
  exact eq_comm

/-- Two numbers that are not told apart are not told apart the other way round. -/
theorem Numeric.compare?_eq_comm (x y : Numeric) :
    (x.compare? y).getD .eq = .eq ↔ (y.compare? x).getD .eq = .eq := by
  have hswap (o : Option Ordering) : o.getD .eq = .eq ↔ (o.map Ordering.swap).getD .eq = .eq := by
    rcases o with _ | (_ | _ | _) <;> simp
  cases x with
  | int a =>
      cases y with
      | int b =>
          simp only [Numeric.compare?, Option.getD_some, Std.LawfulEqCmp.compare_eq_iff_eq]
          exact eq_comm
      | float y => exact hswap _
  | float x =>
      cases y with
      | int b => exact (hswap _).symm
      | float y =>
          simp only [Numeric.compare?]
          split_ifs <;> simp_all

namespace Cell

theorem order_eq_comm (a b : Cell) : a.order b = .eq ↔ b.order a = .eq := by
  cases a <;> cases b <;>
    simp only [order, numeric?, rank, compareTexts_eq_iff, Std.LawfulEqCmp.compare_eq_iff_eq] <;>
    first
      | exact eq_comm
      | exact compareBytes_eq_comm
      | exact Numeric.compare?_eq_comm _ _

/-- Only an empty cell is ranked with an empty one. -/
theorem isNull_of_order_eq {a b : Cell} (h : a.order b = .eq) (ha : a.isNull = true) : b.isNull = true := by
  cases a with
  | null => cases b <;> simp_all [isNull, order, numeric?, rank]
  | int n | real x | text s | blob bs => cases ha

theorem equals_comm (a b : Cell) : a.equals b = b.equals a := by
  have himp (a b : Cell) (h : a.equals b = true) : b.equals a = true := by
    simp only [equals, Bool.and_eq_true, Bool.not_eq_true', beq_iff_eq] at h ⊢
    have hba := (order_eq_comm a b).mp h.2
    refine ⟨?_, hba⟩
    by_contra hb
    rw [isNull_of_order_eq hba (by simpa using hb)] at h
    exact absurd h.1 (by simp)
  exact Bool.eq_iff_iff.mpr ⟨himp a b, himp b a⟩

end Cell

namespace Relation

theorem sameKey_comm (r : Relation) (s t : Tuple) : r.sameKey s t = r.sameKey t s := by
  simp only [sameKey, Cell.equals_comm]

/-! ### What a table admits -/

/-- Do rows meet the constraints of a table? -/
structure Admits (r : Relation) (ts : List Tuple) : Prop where
  /-- No two rows have the same key. -/
  distinct : ts.Pairwise fun s t => r.sameKey s t = false
  /-- No column that refuses NULL is empty. -/
  filled : ∀ t ∈ ts, ∀ f ∈ r.cls.fields, f.nullable = false → (t.cell f.name).isNull = false

variable {r r' : Relation} {ts ts' : List Tuple}

theorem hasDuplicate_eq_false_iff :
    r.hasDuplicate ts = false ↔ ts.Pairwise fun s t => r.sameKey s t = false := by
  induction ts with
  | nil => simp [hasDuplicate]
  | cons t ts ih => simp [hasDuplicate, ih]

theorem emptyField?_eq_none_iff {t : Tuple} :
    r.emptyField? t = none ↔ ∀ f ∈ r.cls.fields, f.nullable = false → (t.cell f.name).isNull = false := by
  simp [emptyField?]

/-- The constraints do not depend on the order of the rows. -/
theorem Admits.perm (h : r.Admits ts) (hp : ts'.Perm ts) : r.Admits ts' where
  distinct := (hp.pairwise_iff fun {s t} hst => (r.sameKey_comm t s).trans hst).mpr h.distinct
  filled t ht := h.filled t (hp.mem_iff.mp ht)

theorem Admits.sublist (h : r.Admits ts) (hs : ts'.Sublist ts) : r.Admits ts' where
  distinct := h.distinct.sublist hs
  filled t ht := h.filled t (hs.subset ht)

/-- They are those of the class, whatever rows there are at the time. -/
theorem Admits.congr (h : r.Admits ts) (hcls : r'.cls = r.cls) : r'.Admits ts := by
  obtain ⟨c, rows⟩ := r
  obtain ⟨c', rows'⟩ := r'
  cases hcls
  exact ⟨h.distinct, h.filled⟩

/-- Rows in the order in which a table keeps them. -/
def arranged (r : Relation) (ts : List Tuple) : List Tuple :=
  if r.cls.generated?.isSome then r.sorted ts else ts

theorem arranged_perm (r : Relation) (ts : List Tuple) : (r.arranged ts).Perm ts := by
  unfold arranged
  split
  · exact List.mergeSort_perm ts _
  · exact List.Perm.refl ts

/-- **A table takes exactly the rows that meet its constraints.** -/
theorem checked_eq_ok_iff : r.checked ts = .ok r' ↔ r.Admits ts ∧ r' = { r with rows := r.arranged ts } := by
  unfold checked
  cases hempty : ts.findSome? r.emptyField? with
  | some f =>
      obtain ⟨t, ht, hf⟩ := List.exists_of_findSome?_eq_some hempty
      refine ⟨fun h => (nomatch h), fun ⟨h, _⟩ => ?_⟩
      rw [emptyField?_eq_none_iff.mpr (h.filled t ht)] at hf
      cases hf
  | none =>
      have hfilled : ∀ t ∈ ts, r.emptyField? t = none := List.findSome?_eq_none_iff.mp hempty
      cases hdup : r.hasDuplicate ts with
      | true =>
          refine ⟨fun h => (nomatch h), fun ⟨h, _⟩ => ?_⟩
          rw [hasDuplicate_eq_false_iff.mpr h.distinct] at hdup
          cases hdup
      | false =>
          have hadmits : r.Admits ts :=
            ⟨hasDuplicate_eq_false_iff.mp hdup, fun t ht => emptyField?_eq_none_iff.mp (hfilled t ht)⟩
          exact ⟨fun h => ⟨hadmits, (Except.ok.inj h).symm⟩, fun h => congrArg _ h.2.symm⟩

/-! ### Writing -/

/-- What it takes to add a row. -/
theorem insert_eq_ok {t u : Tuple} (h : r.insert t = .ok (u, r')) :
    r.withKey t = .ok u ∧ r.Admits (r.rows ++ [u]) ∧ r' = { r with rows := r.arranged (r.rows ++ [u]) } := by
  obtain ⟨u', hkey, h⟩ := bind_eq_ok_iff.mp h
  obtain ⟨r'', hchecked, h⟩ := bind_eq_ok_iff.mp h
  cases h
  exact ⟨hkey, checked_eq_ok_iff.mp hchecked⟩

/-- A row after a change of those that meet a condition. -/
def changedRow (w : Condition) (changes t : Tuple) : Tuple := if w.holds t then t.change changes else t

/-- The rows after it. -/
def changed (r : Relation) (w : Condition) (changes : Tuple) : List Tuple := r.rows.map (changedRow w changes)

/-- What it takes to change rows: one of them that breaks a constraint is enough for none to be changed. -/
theorem update_eq_ok {w : Condition} {changes : Tuple} {n : Nat} (h : r.update w changes = .ok (n, r')) :
    r.Admits (r.changed w changes) ∧ r' = { r with rows := r.arranged (r.changed w changes) } := by
  rw [update] at h
  split at h
  · cases h
  · obtain ⟨r'', hchecked, h⟩ := bind_eq_ok_iff.mp h
    cases h
    exact checked_eq_ok_iff.mp hchecked

/-! ### Sound tables -/

/-- Does a table keep its constraints, with no part of a key empty? -/
structure Sound (r : Relation) : Prop where
  keysDistinct : r.rows.Pairwise fun s t => r.sameKey s t = false
  keysFilled : ∀ t ∈ r.rows, ∀ f ∈ r.cls.keyFields, (t.cell f.name).isNull = false
  filled : ∀ t ∈ r.rows, ∀ f ∈ r.cls.fields, f.nullable = false → (t.cell f.name).isNull = false

end Relation

/-- Does every field of the key of a class refuse NULL? -/
def EntityClass.KeyRefusesNull (c : EntityClass) : Prop := ∀ f ∈ c.keyFields, f.nullable = false

instance (c : EntityClass) : Decidable c.KeyRefusesNull :=
  inferInstanceAs (Decidable (∀ f ∈ c.keyFields, f.nullable = false))

theorem Relation.Admits.sound {r : Relation} (h : r.Admits r.rows) (hkey : r.cls.KeyRefusesNull) : r.Sound where
  keysDistinct := h.distinct
  keysFilled t ht f hf := h.filled t ht f (List.mem_of_mem_filter hf) (hkey f hf)
  filled := h.filled

end SqlMapper
