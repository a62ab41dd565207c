import SqlMapper.Proofs.Store.Selection
/-!
# SqlMapper.Proofs.Store.Saving

What saving adds (`save_adds_one`): one row, with what the record says, the defaults of the class and a generated key.
The cells of the new row are those that its values are bound to (`cell_of_create`), and they are bound to themselves when
they are read (`bind_value`): so the condition that a key stands for is met by the rows of the same key
(`findByKey_eq`), which is the new one, and no other row.
-/

namespace SqlMapper

open EntityClass

/-- The value of a field for which none is given: its default, or nothing. -/
def EntityClass.blank (f : Field) : Value := (defaultValue? f).getD .null

/-- Can a class be declared? The names of its fields differ, and a default is of the type of its field. -/
structure EntityClass.WellFormed (c : EntityClass) : Prop where
  names : (c.fields.map (·.name)).Nodup
  defaults : ∀ f ∈ c.fields, (f.type.kept? (blank f)).isSome = true

theorem FieldType.kept?_eq_null {type : FieldType} {v : Value} (h : type.kept? v = some .null) : v = .null := by
  cases type <;> cases v <;> simp_all [kept?]

namespace Store

variable {cs : List EntityClass} {c : EntityClass} {s s' : Store} {r : Relation} {f : Field} {t u given : Tuple}
  {g : Field → Value} {record : Value} {only : Option (List String)} {e : Value}

/-! ### What a record says -/

/-- What a record says about an attribute: nothing if it has no value for it, or an empty one, or if the attribute is
not one of those that are asked for. -/
def said? (record : Value) (only : Option (List String)) (a : String) : Option Value :=
  if only.all (·.contains a) then
    match valueOf? record a with
    | some .null => none
    | v? => v?
  else none

theorem said?_eq_some {a : String} {v : Value} (h : said? record only a = some v) :
    valueOf? record a = some v ∧ v ≠ .null := by
  unfold said? at h
  split at h
  · split at h
    · cases h
    next hne => exact ⟨h, fun hnull => hne (hnull ▸ h)⟩
  · cases h

/-- The value that an attribute is saved with: what the record says, or else the default. -/
def initial (record : Value) (only : Option (List String)) (f : Field) : Value :=
  (said? record only f.name).getD (blank f)

theorem lookup_filterMap_name (said : String → Option Value) (fs : List Field) (a : String) :
    (fs.filterMap fun f => (said f.name).map fun v => (f.name, v)).lookup a =
      if a ∈ fs.map (·.name) then said a else none := by
  induction fs with
  | nil => rfl
  | cons f fs ih =>
      rw [List.filterMap_cons, List.map_cons]
      by_cases ha : a = f.name
      · subst ha
        cases hsaid : said f.name with
        | none => simpa [hsaid] using ih
        | some v => simp
      · cases hsaid : said f.name with
        | none => simpa [ha] using ih
        | some v => simpa [ha, List.lookup_cons, beq_false_of_ne ha] using ih

theorem declaredValues_eq (c : EntityClass) (record : Value) (only : Option (List String)) :
    declaredValues c record only =
      Named.restrict (c.fields.filterMap fun f => (said? record none f.name).map fun v => (f.name, v)) only := by
  unfold declaredValues
  congr 1
  refine List.filterMap_congr fun f _ => ?_
  rw [said?, Option.all_none, if_pos rfl]
  cases valueOf? record f.name with
  | none => rfl
  | some v => cases v <;> rfl

theorem lookup_declaredValues (hf : f ∈ c.fields) (record : Value) (only : Option (List String)) :
    (declaredValues c record only).lookup f.name = said? record only f.name := by
  rw [declaredValues_eq, Named.lookup_restrict, Named.given?, lookup_filterMap_name (said? record none),
    if_pos (List.mem_map_of_mem hf)]
  rfl

theorem initialValues_declaredValues (c : EntityClass) (record : Value) (only : Option (List String)) :
    initialValues c (declaredValues c record only) = c.fields.map fun f => (f, initial record only f) :=
  List.map_congr_left fun f hf => by rw [lookup_declaredValues hf]; rfl

/-! ### The new row -/

theorem isGenerated_iff {v : Value} : isGenerated c f v = true ↔ c.generated? = some f ∧ v = .null := by
  unfold isGenerated
  cases v <;> simp

/-- The values that are bound for a new entity: all but the one that is generated. -/
def boundValues (c : EntityClass) (g : Field → Value) : List (Field × Value) :=
  (c.fields.map fun f => (f, g f)).filter fun fv => !isGenerated c fv.1 fv.2

theorem find?_boundValues (hnames : (c.fields.map (·.name)).Nodup) (hf : f ∈ c.fields) :
    (boundValues c g).find? (·.1.name == f.name) = if isGenerated c f (g f) then none else some (f, g f) := by
  cases hgenerated : isGenerated c f (g f) with
  | true =>
      refine List.find?_eq_none.mpr fun fv hfv hname => ?_
      obtain ⟨hmem, hbound⟩ := List.mem_filter.mp hfv
      obtain ⟨f', hf', rfl⟩ := List.mem_map.mp hmem
      obtain rfl := List.inj_on_of_nodup_map hnames hf' hf (eq_of_beq hname)
      rw [hgenerated] at hbound
      cases hbound
  | false =>
      have hmem : (f, g f) ∈ boundValues c g :=
        List.mem_filter.mpr ⟨List.mem_map_of_mem hf, by simp [hgenerated]⟩
      have hdistinct : ((boundValues c g).map (·.1.name)).Nodup := by
        have hsublist := (List.filter_sublist (p := fun fv : Field × Value => !isGenerated c fv.1 fv.2)
          (l := c.fields.map fun f => (f, g f))).map (·.1.name)
        rw [List.map_map] at hsublist
        exact hnames.sublist hsublist
      exact find?_of_nodup hdistinct hmem

theorem cell_of_bindAll (hnames : (c.fields.map (·.name)).Nodup) (hf : f ∈ c.fields)
    (hgiven : bindAll 1 (boundValues c g) = .ok given) :
    (isGenerated c f (g f) = true → given.cell f.name = .null) ∧
      (isGenerated c f (g f) = false → bind 1 f.type (g f) = .ok (given.cell f.name)) := by
  have hbound := lookup_of_bindAll hgiven f.name
  rw [find?_boundValues hnames hf] at hbound
  cases hgenerated : isGenerated c f (g f) with
  | true =>
      rw [hgenerated, if_pos rfl] at hbound
      refine ⟨fun _ => by rw [Tuple.cell, show given.lookup f.name = none from hbound]; rfl, fun h => ?_⟩
      cases h
  | false =>
      rw [hgenerated, if_neg Bool.false_ne_true] at hbound
      obtain ⟨cell, hcell, hlookup⟩ := hbound
      refine ⟨fun h => ?_, fun _ => by rw [Tuple.cell, hlookup, hcell]; rfl⟩
      cases h

/-- What is bound is not empty, unless it is an empty value. -/
theorem eq_null_of_cell (hnames : (c.fields.map (·.name)).Nodup) (hf : f ∈ c.fields)
    (htyped : (f.type.kept? (g f)).isSome = true) (hgiven : bindAll 1 (boundValues c g) = .ok given)
    (hempty : given.cell f.name = .null) : g f = .null := by
  obtain ⟨-, hbound⟩ := cell_of_bindAll hnames hf hgiven
  cases hgenerated : isGenerated c f (g f) with
  | true => exact (isGenerated_iff.mp hgenerated).2
  | false =>
      obtain ⟨x, hx⟩ := Option.isSome_iff_exists.mp htyped
      have hvalue := (value_of_bind hx (hbound hgenerated)).1
      rw [hempty] at hvalue
      exact FieldType.kept?_eq_null (hx.trans (congrArg some hvalue.symm))

/-- **The cells of a new row**: a key is generated if there is none, and the other values are bound. -/
theorem cell_of_create (hcls : r.cls = c) (hnames : (c.fields.map (·.name)).Nodup)
    (htyped : ∀ f ∈ c.fields, (f.type.kept? (g f)).isSome = true)
    (hgiven : bindAll 1 (boundValues c g) = .ok given)
    (hkey : r.withKey (c.fields.map fun f => (f.name, given.cell f.name)) = .ok t) (hf : f ∈ c.fields) :
    (isGenerated c f (g f) = true → t.cell f.name = .int (r.nextKey f) ∧ Cell.fits (r.nextKey f) = true) ∧
      (isGenerated c f (g f) = false → bind 1 f.type (g f) = .ok (t.cell f.name)) := by
  obtain ⟨hnull, hbound⟩ := cell_of_bindAll hnames hf hgiven
  have hrow {f : Field} (hf : f ∈ c.fields) :
      Tuple.cell (c.fields.map fun f => (f.name, given.cell f.name)) f.name = given.cell f.name := by
    rw [Tuple.cell, lookup_map_name given.cell hf]
    rfl
  rcases Relation.withKey_eq_ok hkey with ⟨hnone, rfl⟩ | ⟨f', hf', ⟨hempty, hfits, rfl⟩ | ⟨⟨n, hn⟩, rfl⟩⟩
  · rw [hrow hf]
    refine ⟨fun hgenerated => ?_, hbound⟩
    rw [hcls, (isGenerated_iff.mp hgenerated).1] at hnone
    cases hnone
  · -- the key is empty, and what is bound for it is not: so it is generated
    rw [hcls] at hf'
    have hmem := (generated?_eq_some hf').2.2
    rw [hrow hmem] at hempty
    have hempty' := eq_null_of_cell hnames hmem (htyped f' hmem) hgiven hempty
    rw [Tuple.cell_change_of_mem _ (by simpa [Tuple.names] using ⟨f, hf, rfl⟩), hrow hf]
    by_cases hname : f.name = f'.name
    · obtain rfl := List.inj_on_of_nodup_map hnames hf hmem hname
      refine ⟨fun _ => ⟨by simp, hfits⟩, fun hnot => ?_⟩
      rw [isGenerated_iff.mpr ⟨hf', hempty'⟩] at hnot
      cases hnot
    · rw [List.lookup_cons, beq_false_of_ne hname]
      refine ⟨fun hgenerated => ?_, hbound⟩
      cases hf'.symm.trans (isGenerated_iff.mp hgenerated).1
      exact absurd rfl hname
  · rw [hcls] at hf'
    rw [hrow (generated?_eq_some hf').2.2] at hn
    rw [hrow hf]
    refine ⟨fun hgenerated => ?_, hbound⟩
    cases hf'.symm.trans (isGenerated_iff.mp hgenerated).1
    rw [hnull hgenerated] at hn
    cases hn

/-! ### Keys -/

/-- The values of the key of an entity. -/
def keyValues (c : EntityClass) (e : Value) : List Value := c.keyFields.map fun f => (valueOf? e f.name).getD .null

/-- The key of an entity, as it is looked up: a value, or several. -/
def keyValue (c : EntityClass) (e : Value) : Value :=
  match keyValues c e with
  | [v] => v
  | vs => .tuple vs

theorem keyValues_entityOf (c : EntityClass) (t : Tuple) :
    keyValues c (entityOf c t) = (c.keyFields.map fun f => t.cell f.name).map Cell.value := by
  rw [keyValues, List.map_map]
  exact List.map_congr_left fun f hf => by rw [valueOf?_entityOf (List.mem_of_mem_filter hf)]; rfl

/-- Cells are named by the fields of the key. -/
theorem namedKey_value {cells : List Cell} (hlength : cells.length = c.keyFields.length) :
    namedKey c (match cells.map Cell.value with
      | [v] => v
      | vs => .tuple vs) = .ok ((c.keyFields.map (·.name)).zip (cells.map Cell.value)) := by
  match cells with
  | [] => simp [namedKey, keyParts, ← hlength]
  | [x] => cases x <;> simp [namedKey, keyParts, ← hlength, Cell.value]
  | x :: y :: cells => simp [namedKey, keyParts, ← hlength]

/-- The key of an entity stands for the cells of its row. -/
theorem keyOf_keyValue (c : EntityClass) (t : Tuple) :
    keyOf c (keyValue c (entityOf c t)) = .ok (c.keyFields.map fun f => (f.name, (t.cell f.name).value)) := by
  have hnamed : namedKey c (keyValue c (entityOf c t)) =
      .ok (c.keyFields.map fun f => (f.name, (t.cell f.name).value)) := by
    rw [keyValue, keyValues_entityOf, namedKey_value (by simp), List.map_map, List.zip_map']
    rfl
  have hhashable : unhashable? (c.keyFields.map fun f => (f.name, (t.cell f.name).value)) = none := by
    rw [unhashable?, List.findSome?_eq_none_iff]
    intro kv hkv
    obtain ⟨f, -, rfl⟩ := List.mem_map.mp hkv
    cases t.cell f.name <;> rfl
  refine bind_eq_ok_iff.mpr ⟨_, hnamed, ?_⟩
  rw [hhashable]

/-- What is read of a key asks for rows of the same key. -/
theorem bindTests_key {fs : List Field}
    (h : ∀ f ∈ fs, f.type.holds (t.cell f.name) = true ∧ (t.cell f.name).isNull = false) (position : Nat) :
    bindTests position (fs.map fun f => (f, (t.cell f.name).value)) =
      .ok (fs.map fun f => (f.name, .equals (t.cell f.name))) := by
  induction fs generalizing position with
  | nil => rfl
  | cons f fs ih =>
      obtain ⟨⟨hholds, hfilled⟩, hrest⟩ := List.forall_mem_cons.mp h
      have htest : bindTest position f.type (t.cell f.name).value = .ok (.equals (t.cell f.name)) := by
        have hbound := bind_value hholds position
        cases hcell : t.cell f.name with
        | null =>
            rw [hcell] at hfilled
            cases hfilled
        | _ =>
            rw [hcell] at hbound
            exact map_eq_ok_iff.mpr ⟨_, hbound, rfl⟩
      rw [List.map_cons, bindTests_cons]
      exact bind_eq_ok_iff.mpr ⟨_, htest, bind_eq_ok_iff.mpr ⟨_, ih hrest _, rfl⟩⟩

theorem conditionFields_key (hnames : (c.fields.map (·.name)).Nodup) (g : Field → Value) :
    conditionFields c (c.keyFields.map fun f => (f.name, g f)) = .ok (c.keyFields.map fun f => (f, g f)) := by
  have hfield {f : Field} (hf : f ∈ c.keyFields) : c.field? f.name = some f :=
    field?_name hnames (List.mem_of_mem_filter hf)
  rw [conditionFields, fieldsOf_eq, List.filterMap_map]
  · refine congrArg _ ?_
    rw [← List.filterMap_eq_map]
    exact List.filterMap_congr fun f hf => by simp [hfield hf]
  · intro k hk
    rw [List.map_map] at hk
    obtain ⟨f, hf, rfl⟩ := List.mem_map.mp hk
    simp [hfield hf]

/-- **A key finds the rows of the same key**, if it is made of what its columns keep. -/
theorem findByKey_eq (hr : s.relation c = .ok r) (hcls : r.cls = c) (hnames : (c.fields.map (·.name)).Nodup)
    (hkey : ∀ f ∈ c.keyFields, f.type.holds (t.cell f.name) = true ∧ (t.cell f.name).isNull = false) :
    ∃ tests : Condition, (∀ u, tests.holds u = r.sameKey u t) ∧
      findByKey c (keyValue c (entityOf c t)) s = .ok (((r.first? tests).map (entityOf c)).getD .null) := by
  refine ⟨c.keyFields.map fun f => (f.name, .equals (t.cell f.name)), fun u => ?_, ?_⟩
  · rw [Condition.holds, Relation.sameKey, List.all_map, hcls]
    rfl
  · have hmet := condition_of_bindTests (conditionFields_key hnames _) hr (bindTests_key hkey 1)
    exact bind_eq_ok_iff.mpr ⟨_, keyOf_keyValue c t, bind_eq_ok_iff.mpr ⟨_, hmet, rfl⟩⟩

/-! ### Saving -/

/-- Are the values that a record has for the attributes of a class of the types of their columns? -/
def Typed (c : EntityClass) (record : Value) : Prop :=
  ∀ f ∈ c.fields, ∀ v, valueOf? record f.name = some v → (f.type.kept? v).isSome = true

/-- Does a record leave an attribute to the table, which generates it? -/
def LeavesOut (c : EntityClass) (record : Value) (only : Option (List String)) (f : Field) : Prop :=
  said? record only f.name = none ∧ isGenerated c f (blank f) = true

/-- Are all integers that are stored for an attribute less than the greatest that there is? -/
def HasRoom (c : EntityClass) (s : Store) (f : Field) : Prop :=
  ∀ u ∈ s.entities c, ∀ n, valueOf? u f.name = some (.int n) → n < Number.twoTo 63 - 1

/-- Is an integer the greatest of an attribute plus one, or 1 if there is none? -/
def IsNext (c : EntityClass) (s : Store) (f : Field) (n : Int) : Prop :=
  (s.entities c = [] ∧ n = 1) ∨
    (∃ u ∈ s.entities c, valueOf? u f.name = some (.int (n - 1))) ∧
      ∀ u ∈ s.entities c, ∃ m, valueOf? u f.name = some (.int m) ∧ m < n

/-- Is an entity one that a record adds to a store, and nothing else? -/
structure Adds (c : EntityClass) (record : Value) (only : Option (List String)) (s : Store) (e : Value) (s' : Store) :
    Prop where
  /-- There is one row more. -/
  added : (s'.entities c).Perm (s.entities c ++ [e])
  /-- Its key was not in use. -/
  fresh : ∀ u ∈ s.entities c, keyValues c u ≠ keyValues c e
  /-- What the record says is kept. -/
  given : ∀ f ∈ c.fields, ∀ v, said? record only f.name = some v → valueOf? e f.name = f.type.kept? v
  /-- The other attributes have their defaults. -/
  default : ∀ f ∈ c.fields, said? record only f.name = none → ¬ LeavesOut c record only f →
    valueOf? e f.name = some (blank f)
  /-- A key that is left out is generated. -/
  generated : ∀ f ∈ c.fields, LeavesOut c record only f →
    ∃ n, valueOf? e f.name = some (.int n) ∧ (HasRoom c s f → IsNext c s f n)
  /-- The key found nothing before, and now it finds the entity. -/
  found : findByKey c (keyValue c e) s = .ok .null ∧ findByKey c (keyValue c e) s' = .ok e
  elsewhere : SameElsewhere c s s'

/-- What the record says is of the type of the column, and so is the default. -/
theorem kept?_initial (hc : c.WellFormed) (hrecord : Typed c record) (only : Option (List String)) :
    ∀ f ∈ c.fields, (f.type.kept? (initial record only f)).isSome = true := by
  intro f hf
  unfold initial
  cases hsaid : said? record only f.name with
  | none => exact hc.defaults f hf
  | some v => exact hrecord f hf v (said?_eq_some hsaid).1

/-- The defaults are kept as they are. -/
theorem kept?_blank (hc : c.WellFormed) (hf : f ∈ c.fields) : f.type.kept? (blank f) = some (blank f) := by
  have hsome := hc.defaults f hf
  cases hdefault : f.default <;> cases htype : f.type <;>
    simp_all [blank, defaultValue?, FieldType.kept?]

/-- The row that saving adds. -/
structure NewRow (c : EntityClass) (record : Value) (only : Option (List String)) (r : Relation) (t : Tuple) : Prop where
  admits : r.Admits (r.rows ++ [t])
  generated : ∀ f ∈ c.fields, LeavesOut c record only f →
    t.cell f.name = .int (r.nextKey f) ∧ Cell.fits (r.nextKey f) = true
  bound : ∀ f ∈ c.fields, ¬ LeavesOut c record only f →
    f.type.kept? (initial record only f) = some (t.cell f.name).value ∧ f.type.holds (t.cell f.name) = true

theorem isGenerated_initial :
    isGenerated c f (initial record only f) = true ↔ LeavesOut c record only f := by
  rw [LeavesOut, initial]
  cases hsaid : said? record only f.name with
  | none => simp
  | some v => simp [isGenerated_iff, (said?_eq_some hsaid).2]

theorem save_eq_ok (hc : c.WellFormed) (hrecord : Typed c record) (ht : s.HasTable c r)
    (h : save c record only s = .ok (e, s')) :
    ∃ t, NewRow c record only r t ∧ e = entityOf c t ∧ s' = s.put { r with rows := r.arranged (r.rows ++ [t]) } := by
  obtain ⟨r', given, t, hr, hgiven, hkey, hadmits, he, hstored⟩ := create_eq_ok h
  cases hr.symm.trans ht.relation
  rw [initialValues_declaredValues] at hgiven
  have htyped := kept?_initial hc hrecord only
  have hcell {f : Field} (hf : f ∈ c.fields) := cell_of_create ht.cls hc.names htyped hgiven hkey hf
  refine ⟨t, ⟨hadmits, fun f hf hout => (hcell hf).1 (isGenerated_initial.mpr hout), fun f hf hin => ?_⟩, he, hstored⟩
  have hnot : isGenerated c f (initial record only f) = false := by
    rw [Bool.eq_false_iff]
    exact fun hgenerated => hin (isGenerated_initial.mp hgenerated)
  obtain ⟨x, hx⟩ := Option.isSome_iff_exists.mp (htyped f hf)
  obtain ⟨hvalue, hholds⟩ := value_of_bind hx ((hcell hf).2 hnot)
  exact ⟨by rw [hx, hvalue], hholds⟩

/-- The generated key of a new row, in terms of the entities before. -/
theorem HasTable.isNext (ht : s.HasTable c r) (hf : c.generated? = some f) (hroom : HasRoom c s f) :
    IsNext c s f (r.nextKey f) := by
  have hid := ht.shaped.keyed f (by rw [ht.cls, hf])
  have hvalue (u : Tuple) : valueOf? (entityOf c u) f.name = some (u.cell f.name).value :=
    valueOf?_entityOf (generated?_eq_some hf).2.2 u
  rw [HasRoom, ht.entities, List.forall_mem_map] at hroom
  have hless : ∀ u ∈ r.rows, ∀ n, u.cell f.name = .int n → n < Number.twoTo 63 - 1 := fun u hu n hn =>
    hroom u hu n (by rw [hvalue, hn]; rfl)
  rw [IsNext, ht.entities]
  rcases Relation.nextKey_spec hid hless with ⟨hempty, hone⟩ | ⟨⟨u, hu, hlast⟩, hgreater⟩
  · exact .inl ⟨by rw [hempty]; rfl, hone⟩
  · refine .inr ⟨⟨_, List.mem_map_of_mem hu, by rw [hvalue, hlast]; rfl⟩, List.forall_mem_map.mpr fun u hu => ?_⟩
    obtain ⟨m, hm, -⟩ := hid u hu
    exact ⟨m, by rw [hvalue, hm]; rfl, hgreater u hu m hm⟩

namespace NewRow

variable {t : Tuple}

/-- No part of its key is empty. -/
theorem key_filled (h : NewRow c record only r t) (ht : s.HasTable c r) (hcs : c.KeyRefusesNull) :
    ∀ f ∈ c.keyFields, (t.cell f.name).isNull = false := fun f hf =>
  h.admits.filled t (by simp) f (ht.cls ▸ List.mem_of_mem_filter hf) (hcs f hf)

/-- No other row has its key. -/
theorem key_differs (h : NewRow c record only r t) : ∀ u ∈ r.rows, r.sameKey u t = false := fun u hu =>
  (List.pairwise_append.mp h.admits.distinct).2.2 u hu t (by simp)

theorem key_same (h : NewRow c record only r t) (ht : s.HasTable c r) (hcs : c.KeyRefusesNull) :
    r.sameKey t t = true :=
  List.all_eq_true.mpr fun f hf => Cell.equals_self (h.key_filled ht hcs f (ht.cls ▸ hf))

/-- Its cells are read as they are bound. -/
theorem cell_holds (h : NewRow c record only r t) (hf : f ∈ c.fields) : f.type.holds (t.cell f.name) = true := by
  by_cases hout : LeavesOut c record only f
  · obtain ⟨hcell, hfits⟩ := h.generated f hf hout
    rw [hcell, (generated?_eq_some (isGenerated_iff.mp hout.2).1).2.1]
    exact hfits
  · exact (h.bound f hf hout).2

theorem fresh (h : NewRow c record only r t) (ht : s.HasTable c r) (hcs : c.KeyRefusesNull) :
    ∀ u ∈ s.entities c, keyValues c u ≠ keyValues c (entityOf c t) := by
  rw [ht.entities, List.forall_mem_map]
  intro u hu heq
  rw [keyValues_entityOf, keyValues_entityOf, (List.map_injective_iff.mpr Cell.value_injective).eq_iff,
    List.map_inj_left] at heq
  -- equal keys are equal cells, and no cell of the key is empty, so that the two rows would clash
  have hsame : r.sameKey u t = r.sameKey t t := by
    unfold Relation.sameKey
    rw [Bool.eq_iff_iff, List.all_eq_true, List.all_eq_true]
    exact forall₂_congr fun f hf => by rw [heq f (ht.cls ▸ hf)]
  rw [h.key_differs u hu, h.key_same ht hcs] at hsame
  cases hsame

/-- Its key is made of what the columns keep. -/
theorem key_holds (h : NewRow c record only r t) (ht : s.HasTable c r) (hcs : c.KeyRefusesNull) :
    ∀ f ∈ c.keyFields, f.type.holds (t.cell f.name) = true ∧ (t.cell f.name).isNull = false := fun f hf =>
  ⟨h.cell_holds (List.mem_of_mem_filter hf), h.key_filled ht hcs f hf⟩

theorem filter_sameKey (h : NewRow c record only r t) : (r.rows.filter fun u => r.sameKey u t) = [] := by
  simpa using h.key_differs

/-- Its key found nothing before. -/
theorem not_found (h : NewRow c record only r t) (ht : s.HasTable c r) (hc : c.WellFormed) (hcs : c.KeyRefusesNull) :
    findByKey c (keyValue c (entityOf c t)) s = .ok .null := by
  obtain ⟨tests, htests, hfind⟩ := findByKey_eq ht.relation ht.cls hc.names (h.key_holds ht hcs)
  have hselect : r.select tests = [] := by rw [Relation.select, funext htests, h.filter_sameKey]
  rw [hfind]
  rcases r.first?_cases tests with ⟨-, hfirst⟩ | ⟨u, hu, -⟩
  · rw [hfirst]
    rfl
  · rw [hselect] at hu
    cases hu

/-- Its key finds it now. -/
theorem found (h : NewRow c record only r t) (ht : s.HasTable c r) (hc : c.WellFormed) (hcs : c.KeyRefusesNull) :
    findByKey c (keyValue c (entityOf c t)) (s.put { r with rows := r.arranged (r.rows ++ [t]) }) =
      .ok (entityOf c t) := by
  generalize hr' : ({ r with rows := r.arranged (r.rows ++ [t]) } : Relation) = r'
  have hcls : r'.cls = r.cls := by rw [← hr']
  obtain ⟨tests, htests, hfind⟩ :=
    findByKey_eq (relation_put ht.relation hcls) (hcls.trans ht.cls) hc.names (h.key_holds ht hcs)
  -- wherever the new row is kept, it is the only one that is selected
  have hselect : (r'.select tests).Perm [t] := by
    have hholds : tests.holds = fun u => r.sameKey u t := by
      rw [funext htests]
      subst hr'
      rfl
    have hall : (r.rows ++ [t]).filter tests.holds = [t] := by
      rw [hholds, List.filter_append, h.filter_sameKey, List.nil_append, List.filter_cons,
        if_pos (h.key_same ht hcs), List.filter_nil]
    rw [← hall, ← hr']
    exact (r.arranged_perm (r.rows ++ [t])).filter tests.holds
  rw [hfind]
  rcases r'.first?_cases tests with ⟨hempty, -⟩ | ⟨u, hu, hfirst⟩
  · rw [hempty] at hselect
    cases hselect.length_eq
  · obtain rfl := List.mem_singleton.mp (hselect.mem_iff.mp hu)
    rw [hfirst]
    rfl

end NewRow

/-- **Saving adds one row**, with what the record says of the attributes that are asked for and the defaults of the
others, under a key that was not in use and by which it is found; nothing else changes. -/
theorem save_adds_one (hcs : IsSchema cs) (hs : Reachable cs s) (hc : c ∈ cs) (hwf : c.WellFormed)
    (hrecord : Typed c record) (h : save c record only s = .ok (e, s')) : Adds c record only s e s' := by
  obtain ⟨r, ht⟩ := hs.hasTable hcs hc
  obtain ⟨t, hnew, rfl, rfl⟩ := save_eq_ok hwf hrecord ht h
  have hkeys := hcs.keys c hc
  refine ⟨?_, hnew.fresh ht hkeys, ?_, ?_, ?_, ⟨hnew.not_found ht hwf hkeys, hnew.found ht hwf hkeys⟩,
    ht.sameElsewhere⟩
  · rw [ht.entities_put, ht.entities]
    simpa using (r.arranged_perm (r.rows ++ [t])).map (entityOf c)
  · intro f hf v hsaid
    have hin : ¬ LeavesOut c record only f := fun hout => by
      rw [hout.1] at hsaid
      cases hsaid
    have hvalue := (hnew.bound f hf hin).1
    rw [initial, hsaid, Option.getD_some] at hvalue
    rw [valueOf?_entityOf hf, hvalue]
  · intro f hf hsaid hin
    have hvalue := (hnew.bound f hf hin).1
    rw [initial, hsaid, Option.getD_none, kept?_blank hwf hf] at hvalue
    rw [valueOf?_entityOf hf, hvalue]
  · intro f hf hout
    refine ⟨r.nextKey f, ?_, ht.isNext (isGenerated_iff.mp hout.2).1⟩
    rw [valueOf?_entityOf hf, (hnew.generated f hf hout).1]
    rfl

/-- A pair with a note, and with something that is no attribute of it. -/
def newPair : List (String × Value) :=
  [("b", .int 2), ("a", .str "y"), ("note", .str "new"), ("other", .list [])]

/-- It is added to two others, without its note, which is not asked for. -/
theorem save_adds_one_pair :
    let record : Value := .dict (newPair.map fun (k, v) => (.str k, v))
    let s := (ofClasses Catalogue.mapped).run addTwoPairs
    let e : Value := .entity Catalogue.pair [("b", .int 2), ("a", .str "y"), ("note", .null)]
    IsSchema Catalogue.mapped ∧ Reachable Catalogue.mapped s ∧ Catalogue.pair ∈ Catalogue.mapped ∧
      Catalogue.pair.WellFormed ∧ Typed Catalogue.pair record ∧
      ∃ s', save Catalogue.pair record (some ["a", "b"]) s = .ok (e, s') ∧
        Adds Catalogue.pair record (some ["a", "b"]) s e s' := by
  intro record s e
  have hschema : IsSchema Catalogue.mapped := ⟨by decide, by decide⟩
  have hreachable : Reachable Catalogue.mapped s := ⟨addTwoPairs, by decide, rfl⟩
  have hmember : Catalogue.pair ∈ Catalogue.mapped := by decide
  have hwf : Catalogue.pair.WellFormed := ⟨by decide, by decide⟩
  have hvalue (a : String) : valueOf? record a = newPair.lookup a := Value.lookup?_str a newPair
  have htyped : Typed Catalogue.pair record := by
    have hall : ∀ f ∈ Catalogue.pair.fields,
        ((newPair.lookup f.name).all fun v => (f.type.kept? v).isSome) = true := by decide
    intro f hf v hv
    have hkept := hall f hf
    rwa [← hvalue, hv] at hkept
  have hdeclared : declaredValues Catalogue.pair record (some ["a", "b"]) = [("b", .int 2), ("a", .str "y")] := by
    simp only [declaredValues, hvalue]
    rfl
  obtain ⟨s', hsaved⟩ : ∃ s', save Catalogue.pair record (some ["a", "b"]) s = .ok (e, s') := by
    rw [save, hdeclared]
    exact ⟨_, rfl⟩
  exact ⟨hschema, hreachable, hmember, hwf, htyped, s', hsaved,
    save_adds_one hschema hreachable hmember hwf htyped hsaved⟩

end Store
end SqlMapper
