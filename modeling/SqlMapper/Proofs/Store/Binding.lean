import SqlMapper.Proofs.Store.Runs
/-!
# SqlMapper.Proofs.Store.Binding

What becomes of values that are bound for columns. A value of the column's type is kept as it is (`value_of_bind`), and
what is read from there is bound as what it was (`bind_value`). What is bound does not depend on the place in the
statement, so that a condition asks the same in every statement (`bindTests_position`).
-/

namespace SqlMapper

theorem Cell.value_injective : Function.Injective Cell.value := by
  intro a b h
  cases a <;> cases b <;> simp_all [value]

/-- What a column keeps of a value of its type: a number, a text or nothing. Truth values are numbers, and a text that is
finished SQL is a text. -/
def FieldType.kept? : FieldType → Value → Option Value
  | _, .null => some .null
  | .integer, .int n => some (.int n)
  | .integer, .bool b => some (.int (if b then 1 else 0))
  | .text, .str s | .text, .sql s => some (.str s)
  | _, _ => none

/-- Is a cell one that a column keeps values of its type in? -/
def FieldType.holds : FieldType → Cell → Bool
  | _, .null => true
  | .integer, .int n => Cell.fits n
  | .text, .text _ => true
  | _, _ => false

namespace Store

variable {c : EntityClass} {f : Field} {type : FieldType} {position : Nat} {v x : Value} {vs : Named}
  {fvs : List (Field × Value)} {cells : Tuple} {tests : Condition} {unknown : String → StoreError}

/-! ### Values of the column's type -/

/-- **What is of the column's type is kept.** -/
theorem value_of_bind {cell : Cell} (hkept : type.kept? v = some x) (h : bind position type v = .ok cell) :
    cell.value = x ∧ type.holds cell = true := by
  obtain ⟨y, hy, rfl⟩ := map_eq_ok_iff.mp h
  cases type with
  | integer =>
      cases v <;> simp only [FieldType.kept?, reduceCtorEq, Option.some.injEq] at hkept <;> subst hkept
      case null =>
        cases hy
        exact ⟨rfl, rfl⟩
      case bool b => cases b <;> cases hy <;> exact ⟨rfl, by decide⟩
      case int n =>
        simp only at hy
        split at hy
        next hfits =>
          cases hy
          exact ⟨rfl, hfits⟩
        next => cases hy
  | text =>
      cases v <;> simp only [FieldType.kept?, reduceCtorEq, Option.some.injEq] at hkept <;> subst hkept <;>
        cases hy <;> exact ⟨rfl, rfl⟩

/-- What is read from a column is bound as what it was. -/
theorem bind_value {cell : Cell} (h : type.holds cell = true) (position : Nat) :
    bind position type cell.value = .ok cell := by
  cases type with
  | integer =>
      cases cell with
      | null => rfl
      | int n =>
          have hfits : Cell.fits n = true := h
          simp [bind, Cell.value, hfits, Except.map, Cell.incline]
      | real _ | text _ | blob _ => cases h
  | text =>
      cases cell with
      | null | text _ => rfl
      | int _ | real _ | blob _ => cases h

theorem exists_of_isStorable (h : isStorable v = true) (position : Nat) (type : FieldType) :
    ∃ cell, bind position type v = .ok cell := by
  cases v <;> first | exact ⟨_, rfl⟩ | cases h | skip
  next n =>
    have hfits : Cell.fits n = true := h
    exact ⟨(Cell.int n).incline type, by simp [bind, hfits, Except.map]⟩

/-! ### Places in the statement -/

/-- The place in the statement only matters to the message when a value cannot be bound. -/
theorem bind_position {cell : Cell} (h : bind position type v = .ok cell) (position' : Nat) :
    bind position' type v = .ok cell := by
  cases v <;> first | exact h | cases h

/-- What a condition asks of one attribute. -/
def bindTest (position : Nat) (type : FieldType) : Value → Except StoreError Test
  | .null => .ok .isNull
  | v => .equals <$> bind position type v

theorem bindTests_cons (position : Nat) (f : Field) (v : Value) (fvs : List (Field × Value)) :
    bindTests position ((f, v) :: fvs) = do
      let test ← bindTest position f.type v
      let tests ← bindTests (if isInline v then position else position + 1) fvs
      return (f.name, test) :: tests := by
  cases v <;> rfl

theorem bindTest_position {test : Test} (h : bindTest position type v = .ok test) (position' : Nat) :
    bindTest position' type v = .ok test := by
  have hbound (h : Test.equals <$> bind position type v = .ok test) :
      Test.equals <$> bind position' type v = .ok test := by
    obtain ⟨cell, hcell, rfl⟩ := map_eq_ok_iff.mp h
    exact map_eq_ok_iff.mpr ⟨cell, bind_position hcell position', rfl⟩
  cases v with
  | null => exact h
  | _ => exact hbound h

/-- **A condition asks the same in every statement.** -/
theorem bindTests_position (h : bindTests position fvs = .ok tests) (position' : Nat) :
    bindTests position' fvs = .ok tests := by
  induction fvs generalizing position position' tests with
  | nil => exact h
  | cons fv fvs ih =>
      rw [bindTests_cons] at h ⊢
      obtain ⟨test, htest, h⟩ := bind_eq_ok_iff.mp h
      obtain ⟨tests', hrest, h⟩ := bind_eq_ok_iff.mp h
      exact bind_eq_ok_iff.mpr ⟨test, bindTest_position htest position', bind_eq_ok_iff.mpr ⟨tests', ih hrest _, h⟩⟩

theorem exists_of_bindTests (h : ∀ v ∈ fvs.map (·.2), isStorable v = true) (position : Nat) :
    ∃ tests, bindTests position fvs = .ok tests := by
  induction fvs generalizing position with
  | nil => exact ⟨[], rfl⟩
  | cons fv fvs ih =>
      obtain ⟨f, v⟩ := fv
      obtain ⟨hv, hrest⟩ := List.forall_mem_cons.mp h
      obtain ⟨tests, htests⟩ := ih hrest (if isInline v then position else position + 1)
      obtain ⟨cell, hcell⟩ := exists_of_isStorable hv position f.type
      have htest : ∃ test, bindTest position f.type v = .ok test := by
        cases v with
        | null => exact ⟨_, rfl⟩
        | _ => exact ⟨_, map_eq_ok_iff.mpr ⟨cell, hcell, rfl⟩⟩
      obtain ⟨test, htest⟩ := htest
      rw [bindTests_cons]
      exact ⟨_, bind_eq_ok_iff.mpr ⟨test, htest, bind_eq_ok_iff.mpr ⟨tests, htests, rfl⟩⟩⟩

theorem names_bindTests (h : bindTests position fvs = .ok tests) : tests.map (·.1) = fvs.map (·.1.name) := by
  induction fvs generalizing position tests with
  | nil =>
      cases h
      rfl
  | cons fv fvs ih =>
      rw [bindTests_cons] at h
      obtain ⟨test, -, h⟩ := bind_eq_ok_iff.mp h
      obtain ⟨tests', hrest, h⟩ := bind_eq_ok_iff.mp h
      cases h
      exact congrArg (_ :: ·) (ih hrest)

/-- The cell that an attribute gets is the one that its first value is bound to. -/
theorem lookup_of_bindAll (h : bindAll position fvs = .ok cells) (a : String) :
    match fvs.find? (·.1.name == a) with
    | none => cells.lookup a = none
    | some (f, v) => ∃ cell, bind position f.type v = .ok cell ∧ cells.lookup a = some cell := by
  induction fvs generalizing position cells with
  | nil =>
      cases h
      rfl
  | cons fv fvs ih =>
      obtain ⟨f, v⟩ := fv
      obtain ⟨cell, hcell, h⟩ := bind_eq_ok_iff.mp h
      obtain ⟨cells', hrest, h⟩ := bind_eq_ok_iff.mp h
      cases h
      have hbehind := ih hrest
      by_cases hname : f.name = a
      · subst hname
        simpa using hcell
      · rw [List.find?_cons_of_neg (by simpa using hname), List.lookup_cons, beq_false_of_ne (Ne.symm hname)]
        split at hbehind
        next => exact hbehind
        next f' v' _ =>
          obtain ⟨cell', hcell', hlookup⟩ := hbehind
          exact ⟨cell', bind_position hcell' position, hlookup⟩

/-! ### Fields by name -/

theorem field?_eq_some {k : String} (h : c.field? k = some f) : f ∈ c.fields ∧ f.name = k :=
  ⟨List.mem_of_find?_eq_some h, by simpa using List.find?_some h⟩

/-- Where all names differ, each finds what it is the name of. -/
theorem find?_of_nodup {α : Type} {name : α → String} {l : List α} (hl : (l.map name).Nodup) {x : α} (hx : x ∈ l) :
    l.find? (fun y => name y == name x) = some x := by
  cases hfind : l.find? (fun y => name y == name x) with
  | none => simpa using List.find?_eq_none.mp hfind x hx
  | some y =>
      have hname : name y = name x := by simpa using List.find?_some hfind
      rw [List.inj_on_of_nodup_map hl (List.mem_of_find?_eq_some hfind) hx hname]

theorem field?_name (hnames : (c.fields.map (·.name)).Nodup) (hf : f ∈ c.fields) : c.field? f.name = some f :=
  find?_of_nodup hnames hf

/-- Names that are all known are resolved. -/
theorem fieldsOf_eq (hknown : ∀ k ∈ vs.map (·.1), c.field? k ≠ none) (unknown : String → StoreError) :
    fieldsOf c unknown vs = .ok (vs.filterMap fun (k, v) => (c.field? k).map fun f => (f, v)) := by
  induction vs with
  | nil => rfl
  | cons kv vs ih =>
      obtain ⟨hk, hrest⟩ := List.forall_mem_cons.mp hknown
      obtain ⟨f, hf⟩ := Option.ne_none_iff_exists'.mp hk
      have ih := ih hrest
      rw [fieldsOf] at ih ⊢
      rw [List.mapM_cons, ih]
      simp only [hf, List.filterMap_cons, Option.map_some]
      rfl

/-- The value that a field is resolved with is the first one of its name. -/
theorem find?_of_fieldsOf (h : fieldsOf c unknown vs = .ok fvs) (hf : c.field? f.name = some f) :
    fvs.find? (·.1.name == f.name) = (vs.lookup f.name).map fun v => (f, v) := by
  have hknown := (fieldsOf_eq_ok h).1
  rw [fieldsOf_eq hknown, Except.ok.injEq] at h
  subst h
  induction vs with
  | nil => rfl
  | cons kv vs ih =>
      obtain ⟨k, v⟩ := kv
      obtain ⟨hk, hrest⟩ := List.forall_mem_cons.mp hknown
      obtain ⟨g, hg⟩ := Option.ne_none_iff_exists'.mp hk
      have hname := (field?_eq_some hg).2
      simp only [List.filterMap_cons, hg, Option.map_some, List.find?_cons, List.lookup_cons, hname]
      by_cases hkf : k = f.name
      · subst hkf
        cases hf.symm.trans hg
        simp
      · rw [beq_false_of_ne hkf, beq_false_of_ne (Ne.symm hkf)]
        exact ih hrest

theorem mem_fields_of_fieldsOf (h : fieldsOf c unknown vs = .ok fvs) : ∀ fv ∈ fvs, fv.1 ∈ c.fields := by
  rw [fieldsOf_eq (fieldsOf_eq_ok h).1, Except.ok.injEq] at h
  subst h
  intro fv hfv
  obtain ⟨kv, -, hkv⟩ := List.mem_filterMap.mp hfv
  obtain ⟨f, hf, rfl⟩ := Option.map_eq_some_iff.mp hkv
  exact (field?_eq_some hf).1

/-! ### Integers that fit -/

theorem fits_ofFloat {x : Float} {n : Int} (h : Cell.ofFloat x = .int n) : Cell.fits n = true := by
  unfold Cell.ofFloat at h
  split at h
  next m hm =>
    split at h
    next hfits =>
      cases h
      simp only [Cell.fits, Bool.and_eq_true, decide_eq_true_eq] at hfits ⊢
      omega
    next => cases h
  next => cases h

theorem fits_ofNumeral? {text : String} {n : Int} (h : Cell.ofNumeral? text = some (.int n)) :
    Cell.fits n = true := by
  have hint (m : Int) (x : Float) (h : (if Cell.fits m then Cell.int m else .real x) = .int n) :
      Cell.fits n = true := by
    split at h
    next hfits =>
      cases h
      exact hfits
    next => cases h
  unfold Cell.ofNumeral? at h
  dsimp only at h
  split at h
  · exact hint _ _ (Option.some.inj h)
  · split at h
    · obtain ⟨x, -, hx⟩ := Option.map_eq_some_iff.mp h
      exact fits_ofFloat hx
    · cases h

/-- An integer that a column makes of a cell fits into 64 bits. -/
theorem fits_incline {cell : Cell} {n : Int} (hcell : ∀ m, cell = .int m → Cell.fits m = true)
    (h : cell.incline type = .int n) : Cell.fits n = true := by
  cases type with
  | text =>
      cases cell with
      | int m | real x => cases h
      | null | text text | blob bs => exact hcell n h
  | integer =>
      cases cell with
      | real x => exact fits_ofFloat h
      | text text =>
          rw [Cell.incline] at h
          cases hnumeral : Cell.ofNumeral? text with
          | none =>
              rw [hnumeral] at h
              cases h
          | some c =>
              rw [hnumeral, Option.getD_some] at h
              subst h
              exact fits_ofNumeral? hnumeral
      | null | int m | blob bs => exact hcell n h

/-- So does an integer that is bound. -/
theorem fits_of_bind {n : Int} (h : bind position type v = .ok (.int n)) : Cell.fits n = true := by
  obtain ⟨cell, hcell, h⟩ := map_eq_ok_iff.mp h
  refine fits_incline (fun m hm => ?_) h
  subst hm
  cases v <;> simp only [reduceCtorEq, Except.ok.injEq] at hcell
  case bool b => cases b <;> cases hcell <;> decide
  case int k =>
    split at hcell
    next hfits =>
      cases hcell
      exact hfits
    next => cases hcell
  case float x => split at hcell <;> cases hcell

theorem fits_of_bindAll (h : bindAll position fvs = .ok cells) {a : String} {n : Int} (hmem : (a, .int n) ∈ cells) :
    Cell.fits n = true := by
  induction fvs generalizing position cells with
  | nil =>
      cases h
      cases hmem
  | cons fv fvs ih =>
      obtain ⟨cell, hcell, h⟩ := bind_eq_ok_iff.mp h
      obtain ⟨cells', hrest, h⟩ := bind_eq_ok_iff.mp h
      cases h
      rcases List.mem_cons.mp hmem with hhead | hmem
      · cases hhead
        exact fits_of_bind hcell
      · exact ih hrest hmem

end Store
end SqlMapper
