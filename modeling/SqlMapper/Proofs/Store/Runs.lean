import SqlMapper.Entity.Catalogue
import SqlMapper.Proofs.Store.Constraints
/-!
# SqlMapper.Proofs.Store.Runs

Runs of operations on entities, from empty tables. All that an operation can do is said once (`perform_ok`): it reads,
or it leaves other rows in the table of its class (`Leaves`), which the table admits. So the tables stay sound along
every run; and what fails, or only reads, leaves them as they were (`run_keeps_constraints`).
-/

namespace SqlMapper

namespace Store

variable {c : EntityClass} {s s' : Store} {r r' : Relation} {op : Operation}

/-! ### Tables in a store -/

theorem relation_eq_ok (h : s.relation c = .ok r) : r ∈ s ∧ r.cls.tableName = c.tableName := by
  unfold relation at h
  split at h
  next q hfind =>
    cases h
    exact ⟨List.mem_of_find?_eq_some hfind, by simpa using List.find?_some hfind⟩
  next => cases h

theorem mem_put {q : Relation} (h : q ∈ s.put r) : q = r ∨ q ∈ s := by
  obtain ⟨p, hp, rfl⟩ := List.mem_map.mp h
  split
  · exact .inl rfl
  · exact .inr hp

/-- Other rows in one of the tables are no other tables. -/
theorem put_classes (hs : (s.map (·.cls.tableName)).Nodup) (hr : r ∈ s) (hcls : r'.cls = r.cls) :
    (s.put r').map (·.cls) = s.map (·.cls) := by
  rw [put, List.map_map]
  refine List.map_congr_left fun q hq => ?_
  rw [Function.comp_apply]
  split
  next hname =>
    have hqr : q = r := List.inj_on_of_nodup_map hs hq hr (by simpa [hcls] using hname)
    rw [hcls, hqr]
  next => rfl

/-! ### What operations do -/

/-- The rows that an operation leaves in the table of its class, unless the table refuses them. -/
inductive Leaves (c : EntityClass) (r : Relation) : Operation → List Tuple → Prop
  | created {vs : Named} {given t : Tuple}
      (hgiven : bindAll 1 ((initialValues c vs).filter fun (f, v) => !isGenerated c f v) = .ok given)
      (hkey : r.withKey (c.fields.map fun f => (f.name, given.cell f.name)) = .ok t) :
      Leaves c r (.create vs) (r.rows ++ [t])
  | saved {record : Value} {only : Option (List String)} {ts : List Tuple}
      (h : Leaves c r (.create (declaredValues c record only)) ts) : Leaves c r (.save record only) ts
  | updated {changes w : Named} {only : Option (List String)} {tested changed : List (Field × Value)}
      {cells : Tuple} {tests : Condition} (htested : conditionFields c w = .ok tested)
      (hchanged : fieldsOf c .unknownAttribute (changes.restrict only) = .ok changed)
      (hcells : bindAll 1 changed = .ok cells) (htests : bindTests (1 + changed.length) tested = .ok tests) :
      Leaves c r (.update changes w only) (r.changed tests cells)
  | removed {w : Named} {tested : List (Field × Value)} {tests : Condition}
      (htested : conditionFields c w = .ok tested) (htests : bindTests 1 tested = .ok tests) :
      Leaves c r (.remove w) (r.delete tests).2.rows

theorem Leaves.unique {ts ts' : List Tuple} (h : Leaves c r op ts) (h' : Leaves c r op ts') : ts = ts' := by
  induction h generalizing ts' with
  | created hgiven hkey =>
      obtain ⟨hgiven', hkey'⟩ := h'
      cases hgiven.symm.trans hgiven'
      cases hkey.symm.trans hkey'
      rfl
  | saved _ ih =>
      cases h' with
      | saved h' => exact ih h'
  | updated htested hchanged hcells htests =>
      cases h' with
      | updated htested' hchanged' hcells' htests' =>
          cases htested.symm.trans htested'
          cases hchanged.symm.trans hchanged'
          cases hcells.symm.trans hcells'
          cases htests.symm.trans htests'
          rfl
  | removed htested htests =>
      cases h' with
      | removed htested' htests' =>
          cases htested.symm.trans htested'
          cases htests.symm.trans htests'
          rfl

/-- An operation that writes: it leaves rows that the table admits, in the table of its class only. -/
structure Writes (c : EntityClass) (s : Store) (op : Operation) (s' : Store) (r : Relation) (ts rows : List Tuple) :
    Prop where
  table : s.relation c = .ok r
  leaves : Leaves c r op ts
  admits : r.Admits r.rows → r.Admits ts
  kept : rows.Perm ts
  stored : s' = s.put { r with rows }

/-- What it takes to add an entity. -/
theorem create_eq_ok {vs : Named} {v : Value} (h : create c vs s = .ok (v, s')) :
    ∃ r given t, s.relation c = .ok r ∧
      bindAll 1 ((initialValues c vs).filter fun (f, v) => !isGenerated c f v) = .ok given ∧
      r.withKey (c.fields.map fun f => (f.name, given.cell f.name)) = .ok t ∧ r.Admits (r.rows ++ [t]) ∧
      v = entityOf c t ∧ s' = s.put { r with rows := r.arranged (r.rows ++ [t]) } := by
  obtain ⟨r, hr, h⟩ := bind_eq_ok_iff.mp h
  obtain ⟨given, hgiven, h⟩ := bind_eq_ok_iff.mp h
  obtain ⟨⟨t, r'⟩, hinsert, h⟩ := bind_eq_ok_iff.mp h
  cases h
  obtain ⟨hkey, hadmits, rfl⟩ := Relation.insert_eq_ok hinsert
  exact ⟨r, given, t, hr, hgiven, hkey, hadmits, rfl, rfl⟩

/-- What it takes to change entities. -/
theorem update_eq_ok {changes w : Named} {n : Nat} (h : update c changes w s = .ok (n, s')) :
    ∃ r r' tested changed cells tests, s.relation c = .ok r ∧ conditionFields c w = .ok tested ∧
      fieldsOf c .unknownAttribute changes = .ok changed ∧ bindAll 1 changed = .ok cells ∧
      bindTests (1 + changed.length) tested = .ok tests ∧ r.update tests cells = .ok (n, r') ∧ s' = s.put r' := by
  obtain ⟨tested, htested, h⟩ := bind_eq_ok_iff.mp h
  obtain ⟨changed, hchanged, h⟩ := bind_eq_ok_iff.mp h
  dsimp only at h
  split at h
  · cases h
  · obtain ⟨r, hr, h⟩ := bind_eq_ok_iff.mp h
    obtain ⟨cells, hcells, h⟩ := bind_eq_ok_iff.mp h
    obtain ⟨tests, htests, h⟩ := bind_eq_ok_iff.mp h
    obtain ⟨⟨n', r'⟩, hupdate, h⟩ := bind_eq_ok_iff.mp h
    cases h
    exact ⟨r, r', tested, changed, cells, tests, hr, htested, hchanged, hcells, htests, hupdate, rfl⟩

theorem condition_eq_ok {w : Named} {position : Nat} {tests : Condition}
    (h : condition c w position s = .ok (r, tests)) :
    ∃ tested, conditionFields c w = .ok tested ∧ s.relation c = .ok r ∧ bindTests position tested = .ok tests := by
  obtain ⟨tested, htested, h⟩ := bind_eq_ok_iff.mp h
  obtain ⟨r', hr, h⟩ := bind_eq_ok_iff.mp h
  obtain ⟨tests', htests, h⟩ := bind_eq_ok_iff.mp h
  cases h
  exact ⟨tested, htested, hr, htests⟩

/-- What it takes to remove entities. -/
theorem remove_eq_ok {w : Named} {n : Nat} (h : remove c w s = .ok (n, s')) :
    ∃ r tests, condition c w 1 s = .ok (r, tests) ∧ n = (r.delete tests).1 ∧ s' = s.put (r.delete tests).2 := by
  obtain ⟨⟨r, tests⟩, hcondition, h⟩ := bind_eq_ok_iff.mp h
  cases h
  exact ⟨r, tests, hcondition, rfl, rfl⟩

theorem create_ok {vs : Named} {v : Value} (h : create c vs s = .ok (v, s')) :
    ∃ r ts rows, Writes c s (.create vs) s' r ts rows := by
  obtain ⟨r, given, t, hr, hgiven, hkey, hadmits, -, hstored⟩ := create_eq_ok h
  exact ⟨r, _, _, hr, .created hgiven hkey, fun _ => hadmits, r.arranged_perm _, hstored⟩

theorem update_ok {changes w : Named} {only : Option (List String)} {n : Nat}
    (h : update c (changes.restrict only) w s = .ok (n, s')) :
    ∃ r ts rows, Writes c s (.update changes w only) s' r ts rows := by
  obtain ⟨r, r', tested, changed, cells, tests, hr, htested, hchanged, hcells, htests, hupdate, hstored⟩ :=
    update_eq_ok h
  obtain ⟨hadmits, rfl⟩ := Relation.update_eq_ok hupdate
  exact ⟨r, _, _, hr, .updated htested hchanged hcells htests, fun _ => hadmits, r.arranged_perm _, hstored⟩

theorem remove_ok {w : Named} {n : Nat} (h : remove c w s = .ok (n, s')) :
    ∃ r ts rows, Writes c s (.remove w) s' r ts rows := by
  obtain ⟨r, tests, hcondition, -, hstored⟩ := remove_eq_ok h
  obtain ⟨tested, htested, hr, htests⟩ := condition_eq_ok hcondition
  exact ⟨r, _, _, hr, .removed htested htests, fun h => h.sublist List.filter_sublist, List.Perm.refl _, hstored⟩

/-- The condition by which an operation finds what it reads. -/
inductive Seeks (c : EntityClass) : Operation → Named → Prop
  | findByKey {key : Value} {w : Named} (h : keyOf c key = .ok w) : Seeks c (.findByKey key) w
  | findOne (w : Named) : Seeks c (.findOne w) w
  | findAll (w : Named) : Seeks c (.findAll w) w

/-- An operation that reads: it leaves the store alone. -/
structure Reads (c : EntityClass) (s : Store) (op : Operation) (s' : Store) (w : Named) (r : Relation)
    (tests : Condition) : Prop where
  seeks : Seeks c op w
  met : condition c w 1 s = .ok (r, tests)
  same : s' = s

theorem reading_eq_ok {found : Except StoreError Value} {v : Value} (h : reading found s = .ok (v, s')) :
    (∃ u, found = .ok u) ∧ s' = s := by
  obtain ⟨u, hu, h⟩ := map_eq_ok_iff.mp h
  cases h
  exact ⟨⟨_, hu⟩, rfl⟩

theorem counting_eq_ok {changed : Except StoreError (Nat × Store)} {v : Value}
    (h : counting changed = .ok (v, s')) : ∃ n, changed = .ok (n, s') := by
  obtain ⟨⟨n, s''⟩, hn, h⟩ := map_eq_ok_iff.mp h
  cases h
  exact ⟨n, hn⟩

/-- **What an operation does that goes through**: it reads, or it writes. -/
theorem perform_ok {v : Value} (h : perform c s op = .ok (v, s')) :
    (∃ w r tests, Reads c s op s' w r tests) ∨ ∃ r ts rows, Writes c s op s' r ts rows := by
  have hone {w : Named} {u : Value} (h : findOne c w s = .ok u) :
      ∃ r tests, condition c w 1 s = .ok (r, tests) := by
    obtain ⟨⟨r, tests⟩, hmet, -⟩ := bind_eq_ok_iff.mp h
    exact ⟨r, tests, hmet⟩
  cases op with
  | save record only =>
      obtain ⟨r, ts, rows, hw⟩ := create_ok h
      exact .inr ⟨r, ts, rows, hw.table, .saved hw.leaves, hw.admits, hw.kept, hw.stored⟩
  | create vs => exact .inr (create_ok h)
  | findByKey key =>
      obtain ⟨⟨u, hu⟩, hsame⟩ := reading_eq_ok h
      obtain ⟨w, hkey, hu⟩ := bind_eq_ok_iff.mp hu
      obtain ⟨r, tests, hmet⟩ := hone hu
      exact .inl ⟨w, r, tests, .findByKey hkey, hmet, hsame⟩
  | findOne w =>
      obtain ⟨⟨u, hu⟩, hsame⟩ := reading_eq_ok h
      obtain ⟨r, tests, hmet⟩ := hone hu
      exact .inl ⟨w, r, tests, .findOne w, hmet, hsame⟩
  | findAll w =>
      obtain ⟨⟨u, hu⟩, hsame⟩ := reading_eq_ok h
      obtain ⟨⟨r, tests⟩, hmet, -⟩ := bind_eq_ok_iff.mp hu
      exact .inl ⟨w, r, tests, .findAll w, hmet, hsame⟩
  | update changes w only => exact .inr (update_ok (counting_eq_ok h).choose_spec)
  | remove w => exact .inr (remove_ok (counting_eq_ok h).choose_spec)

/-! ### What fails -/

/-- Does an operation answer with an error? -/
def Fails (s : Store) (c : EntityClass) (op : Operation) : Prop := ∃ e, perform c s op = .error e

/-- The attributes that an operation names, in its condition or as those to change. -/
def Operation.attributes : Operation → List String
  | .save .. | .create _ | .findByKey _ => []
  | .findOne w | .findAll w | .remove w => w.map (·.1)
  | .update changes w only => (changes.restrict only).map (·.1) ++ w.map (·.1)

/-- The values that an operation binds. -/
def Operation.bound (c : EntityClass) : Operation → List Value
  | .save record only => given (declaredValues c record only)
  | .create vs => given vs
  | .findByKey key => ((keyOf c key).toOption.getD []).map (·.2)
  | .findOne w | .findAll w | .remove w => w.map (·.2)
  | .update changes w only => (changes.restrict only).map (·.2) ++ w.map (·.2)
where
  /-- The values of a new entity that the table does not generate. -/
  given (vs : Named) : List Value :=
    ((initialValues c vs).filter fun (f, v) => !isGenerated c f v).map (·.2)

/-- Can a value be stored? -/
def isStorable : Value → Bool
  | .null | .bool _ | .float _ | .str _ | .sql _ | .bytes _ => true
  | .int n => Cell.fits n
  | _ => false

/-- Names that are all resolved, and the values that came with them. -/
theorem fieldsOf_eq_ok {unknown : String → StoreError} {vs : Named} {fvs : List (Field × Value)}
    (h : fieldsOf c unknown vs = .ok fvs) :
    (∀ k ∈ vs.map (·.1), c.field? k ≠ none) ∧ fvs.map (·.2) = vs.map (·.2) := by
  induction vs generalizing fvs with
  | nil =>
      cases h
      simp
  | cons kv vs ih =>
      obtain ⟨k, v⟩ := kv
      rw [fieldsOf, List.mapM_cons] at h
      obtain ⟨fv, hfv, h⟩ := bind_eq_ok_iff.mp h
      obtain ⟨fvs', hrest, h⟩ := bind_eq_ok_iff.mp h
      cases h
      obtain ⟨hknown, hvalues⟩ := ih hrest
      cases hk : c.field? k with
      | none => simp [hk] at hfv
      | some f =>
          simp only [hk, Except.ok.injEq] at hfv
          subst hfv
          exact ⟨List.forall_mem_cons.mpr ⟨by simp [hk], hknown⟩, congrArg (v :: ·) hvalues⟩

/-- Does a list of named values only name attributes of a class, with values that can be stored? -/
def Known (c : EntityClass) (vs : Named) : Prop :=
  (∀ k ∈ vs.map (·.1), c.field? k ≠ none) ∧ ∀ v ∈ vs.map (·.2), isStorable v = true

/-- Can the classes have their tables in one database? -/
structure IsSchema (cs : List EntityClass) : Prop where
  names : (cs.map (·.tableName)).Nodup
  keys : ∀ c ∈ cs, c.KeyRefusesNull

/-- The store after operations, each on the entities of a class, one after another. -/
def run (s : Store) (ops : List (EntityClass × Operation)) : Store := ops.foldl (fun s (c, op) => s.step c op) s

/-- Are the tables those of some classes, with rows that they admit? -/
structure Kept (cs : List EntityClass) (s : Store) : Prop where
  classes : s.map (·.cls) = cs
  admits : ∀ r ∈ s, r.Admits r.rows

variable {cs : List EntityClass}

theorem kept_ofClasses (cs : List EntityClass) : Kept cs (ofClasses cs) where
  classes := by rw [ofClasses, List.map_map, Function.comp_def, List.map_id']
  admits r hr := by
    obtain ⟨c, -, rfl⟩ := List.mem_map.mp hr
    exact ⟨List.Pairwise.nil, by simp⟩

/-- **One operation keeps the constraints of all tables.** -/
theorem Kept.step (hcs : IsSchema cs) (hs : Kept cs s) (c : EntityClass) (op : Operation) : Kept cs (s.step c op) := by
  unfold Store.step
  split
  next v s' h =>
    rcases perform_ok h with ⟨w, r, tests, h⟩ | ⟨r, ts, rows, h⟩
    · exact h.same ▸ hs
    · have hr := (relation_eq_ok h.table).1
      have hnames : (s.map (·.cls.tableName)).Nodup := by
        have := hcs.names
        rwa [← hs.classes, List.map_map] at this
      have hrows : r.Admits rows := (h.admits (hs.admits r hr)).perm h.kept
      rw [h.stored]
      have hclasses : (s.put { r with rows }).map (·.cls) = s.map (·.cls) := put_classes hnames hr rfl
      refine ⟨hclasses.trans hs.classes, fun q hq => ?_⟩
      rcases mem_put hq with rfl | hq
      · exact hrows.congr rfl
      · exact hs.admits q hq
  next => exact hs

theorem Kept.run (hcs : IsSchema cs) (hs : Kept cs s) (ops : List (EntityClass × Operation)) :
    Kept cs (s.run ops) := by
  induction ops generalizing s with
  | nil => exact hs
  | cons o ops ih => exact ih (hs.step hcs o.1 o.2)

theorem Kept.sound (hcs : IsSchema cs) (hs : Kept cs s) (hr : r ∈ s) : r.Sound :=
  (hs.admits r hr).sound (hcs.keys r.cls (hs.classes ▸ List.mem_map_of_mem hr))

/-- Two pairs are added whose keys differ in their first part only. -/
def addTwoPairs : List (EntityClass × Operation) :=
  [(Catalogue.pair, .create [("b", .int 1), ("a", .str "x")]),
    (Catalogue.pair, .create [("b", .int 2), ("a", .str "x")])]

end Store
end SqlMapper
