import SqlMapper.Proofs.Store.Rows
/-!
# SqlMapper.Proofs.Store.Selection

What a condition selects (`one_meaning_of_condition`). A condition asks only about attributes of the class, so that it
cannot tell two rows of one entity apart: the rows that it selects are those of the entities that are found by it
(`HasTable.selects`). It is bound to the same tests in every statement, and what is read first, removed or changed are
the rows that pass these.
-/

namespace SqlMapper

/-! ### Named values -/

/-- The value that is given for an attribute, if it is one of those that are asked for. -/
def Named.given? (vs : Named) (only : Option (List String)) (a : String) : Option Value :=
  if only.all (·.contains a) then vs.lookup a else none

theorem Named.lookup_filter (p : String → Bool) (vs : Named) (a : String) :
    (vs.filter fun kv => p kv.1).lookup a = if p a then vs.lookup a else none := by
  induction vs with
  | nil => simp
  | cons kv vs ih =>
      obtain ⟨k, v⟩ := kv
      rw [List.filter_cons]
      by_cases hk : a = k
      · subst hk
        cases hp : p a with
        | true => simp
        | false => simpa [hp] using ih
      · have hother := beq_false_of_ne hk
        cases hp : p k with
        | true => simpa [List.lookup_cons, hother] using ih
        | false => simpa [List.lookup_cons, hother] using ih

theorem Named.lookup_restrict (vs : Named) (only : Option (List String)) (a : String) :
    (vs.restrict only).lookup a = vs.given? only a := by
  cases only with
  | none => rfl
  | some names => exact lookup_filter names.contains vs a

namespace Store

variable {cs : List EntityClass} {c : EntityClass} {s s' : Store} {r : Relation} {w : Named} {tests : Condition}
  {S : List Value}

/-! ### What a condition selects -/

theorem condition_of_bindTests {fields : List (Field × Value)} {position : Nat}
    (hfields : conditionFields c w = .ok fields) (hr : s.relation c = .ok r)
    (htests : bindTests position fields = .ok tests) : condition c w position s = .ok (r, tests) :=
  bind_eq_ok_iff.mpr ⟨fields, hfields, bind_eq_ok_iff.mpr ⟨r, hr, bind_eq_ok_iff.mpr ⟨tests, htests, rfl⟩⟩⟩

/-- A condition does not tell two rows of one entity apart. -/
theorem holds_congr {tested : List (Field × Value)} {position : Nat} (htested : conditionFields c w = .ok tested)
    (htests : bindTests position tested = .ok tests) {t u : Tuple} (h : entityOf c t = entityOf c u) :
    tests.holds t = tests.holds u := by
  unfold Condition.holds
  rw [Bool.eq_iff_iff, List.all_eq_true, List.all_eq_true]
  refine forall₂_congr fun (a, test) hmem => ?_
  have ha : a ∈ tested.map (·.1.name) := names_bindTests htests ▸ List.mem_map_of_mem hmem
  obtain ⟨fv, hfv, rfl⟩ := List.mem_map.mp ha
  dsimp only
  rw [entityOf_eq_iff.mp h fv.1 (mem_fields_of_fieldsOf htested fv hfv)]

/-- Do tests, those that a condition stands for in every statement, select the rows of some entities? -/
structure Selects (c : EntityClass) (s : Store) (r : Relation) (w : Named) (tests : Condition) (S : List Value) :
    Prop where
  tested : ∃ fields, conditionFields c w = .ok fields ∧ ∀ position, bindTests position fields = .ok tests
  perm : S.Perm ((r.select tests).map (entityOf c))
  mem : ∀ t ∈ r.rows, tests.holds t = true ↔ entityOf c t ∈ S

theorem HasTable.selects (ht : s.HasTable c r) (h : findAll c w s = .ok (.list S)) :
    ∃ tests, Selects c s r w tests S := by
  obtain ⟨⟨r', tests⟩, hmet, h⟩ := bind_eq_ok_iff.mp h
  obtain ⟨fields, htested, hr, htests⟩ := condition_eq_ok hmet
  cases hr.symm.trans ht.relation
  cases h
  have hperm : ((r.sorted (r.select tests)).map (entityOf c)).Perm ((r.select tests).map (entityOf c)) :=
    (List.mergeSort_perm _ _).map _
  refine ⟨tests, ⟨fields, htested, bindTests_position htests⟩, hperm, fun t hmem => ⟨fun hholds => ?_, fun hS => ?_⟩⟩
  · exact hperm.mem_iff.mpr (List.mem_map_of_mem (List.mem_filter.mpr ⟨hmem, hholds⟩))
  · -- some row of this entity has been found, and the condition does not tell the two apart
    obtain ⟨u, hu, heq⟩ := List.mem_map.mp (hperm.mem_iff.mp hS)
    rw [← holds_congr htested htests heq]
    exact (List.mem_filter.mp hu).2

/-- What names attributes of the class, with values that can be stored, finds something or nothing. -/
theorem HasTable.findAll_ok (ht : s.HasTable c r) (hw : Known c w) : ∃ S, findAll c w s = .ok (.list S) := by
  have hfields : conditionFields c w = .ok _ := fieldsOf_eq hw.1 _
  obtain ⟨tests, htests⟩ := exists_of_bindTests (by rw [(fieldsOf_eq_ok hfields).2]; exact hw.2) 1
  exact ⟨_, bind_eq_ok_iff.mpr ⟨_, condition_of_bindTests hfields ht.relation htests, rfl⟩⟩

namespace Selects

theorem met (h : Selects c s r w tests S) (hr : s.relation c = .ok r) (position : Nat) :
    condition c w position s = .ok (r, tests) := by
  obtain ⟨fields, hfields, htests⟩ := h.tested
  exact condition_of_bindTests hfields hr (htests position)

theorem length_eq (h : Selects c s r w tests S) : S.length = r.rows.countP tests.holds := by
  rw [h.perm.length_eq, List.length_map, Relation.select, List.countP_eq_length_filter]

/-- What is found is in the table, each entity once. -/
theorem found (h : Selects c s r w tests S) (ht : s.HasTable c r) :
    (s.entities c).Nodup ∧ S.Nodup ∧ ∀ e ∈ S, e ∈ s.entities c := by
  have hsublist : ((r.select tests).map (entityOf c)).Sublist (s.entities c) := by
    rw [ht.entities]
    exact List.filter_sublist.map _
  exact ⟨ht.nodup_entities, h.perm.nodup_iff.mpr (ht.nodup_entities.sublist hsublist),
    fun e he => hsublist.subset (h.perm.mem_iff.mp he)⟩

end Selects

/-! ### Frames -/

/-- Does an entity come from another by setting some of its attributes? -/
structure Sets (c : EntityClass) (changes : Named) (only : Option (List String)) (e e' : Value) : Prop where
  /-- Those that are given get the values that their columns keep. -/
  given : ∀ f ∈ c.fields, ∀ v x, changes.given? only f.name = some v → f.type.kept? v = some x →
    valueOf? e' f.name = some x
  /-- The others stay. -/
  others : ∀ f ∈ c.fields, changes.given? only f.name = none → valueOf? e' f.name = valueOf? e f.name

/-- Does a condition mean the same entities to every operation? -/
structure OneMeaning (c : EntityClass) (s : Store) (w : Named) (S : List Value) : Prop where
  /-- They are some of those in the table, where no two rows stand for the same. -/
  found : (s.entities c).Nodup ∧ S.Nodup ∧ ∀ e ∈ S, e ∈ s.entities c
  none : S = [] → findOne c w s = .ok .null
  /-- One is found if there is any; where keys are generated, it is the one with the least. -/
  one : S ≠ [] → ∃ e ∈ S, findOne c w s = .ok e ∧ ∀ f, c.generated? = some f →
    ∃ n, valueOf? e f.name = some (.int n) ∧ ∀ u ∈ S, ∃ m, valueOf? u f.name = some (.int m) ∧ n ≤ m
  /-- They are removed, and nothing else is. -/
  removed : ∃ s', remove c w s = .ok (S.length, s') ∧ (s'.entities c).Sublist (s.entities c) ∧
    (∀ e, e ∈ s'.entities c ↔ e ∈ s.entities c ∧ e ∉ S) ∧ SameElsewhere c s s'
  /-- They are changed, and nothing else is. -/
  updated : ∀ changes only n s', update c (changes.restrict only) w s = .ok (n, s') → n = S.length ∧
    (∃ es, es.Perm (s'.entities c) ∧
      List.Forall₂ (fun e e' => (e ∉ S → e' = e) ∧ (e ∈ S → Sets c changes only e e')) (s.entities c) es) ∧
    SameElsewhere c s s'

theorem findOne_selected (ht : s.HasTable c r) (h : Selects c s r w tests S) :
    (S = [] ∧ findOne c w s = .ok .null) ∨ ∃ t ∈ r.select tests, r.first? tests = some t ∧
      findOne c w s = .ok (entityOf c t) := by
  have hone : findOne c w s = .ok (((r.first? tests).map (entityOf c)).getD .null) :=
    bind_eq_ok_iff.mpr ⟨_, h.met ht.relation 1, rfl⟩
  rcases r.first?_cases tests with ⟨hnone, hfirst⟩ | ⟨t, ht, hfirst⟩
  · have hempty := h.perm
    rw [hnone, List.map_nil] at hempty
    exact .inl ⟨hempty.eq_nil, by rw [hone, hfirst]; rfl⟩
  · exact .inr ⟨t, ht, hfirst, by rw [hone, hfirst]; rfl⟩

/-- What is read first is found, and has the least generated key. -/
theorem findOne_least (ht : s.HasTable c r) (h : Selects c s r w tests S) (hne : S ≠ []) :
    ∃ e ∈ S, findOne c w s = .ok e ∧ ∀ f, c.generated? = some f →
      ∃ n, valueOf? e f.name = some (.int n) ∧ ∀ u ∈ S, ∃ m, valueOf? u f.name = some (.int m) ∧ n ≤ m := by
  rcases findOne_selected ht h with ⟨hempty, -⟩ | ⟨t, hselected, hfirst, hone⟩
  · exact absurd hempty hne
  · refine ⟨entityOf c t, h.perm.mem_iff.mpr (List.mem_map_of_mem hselected), hone, fun f hf => ?_⟩
    have hf' : r.cls.generated? = some f := by rw [ht.cls, hf]
    have hfields := (EntityClass.generated?_eq_some hf).2.2
    have hid {u : Tuple} (hu : u ∈ r.select tests) : ∃ n, u.cell f.name = .int n :=
      (ht.shaped.keyed f hf' u (List.mem_of_mem_filter hu)).imp fun _ h => h.1
    have hleast := Relation.first?_least hf' (ht.shaped.ordered f hf') hfirst
    obtain ⟨n, hn⟩ := hid hselected
    refine ⟨n, by rw [valueOf?_entityOf hfields, hn]; rfl, fun e he => ?_⟩
    obtain ⟨u, hu, rfl⟩ := List.mem_map.mp (h.perm.mem_iff.mp he)
    obtain ⟨m, hm⟩ := hid hu
    have hle := hleast u hu
    rw [Tuple.number_eq hn, Tuple.number_eq hm] at hle
    exact ⟨m, by rw [valueOf?_entityOf hfields, hm]; rfl, hle⟩

/-- What is found is removed. -/
theorem remove_selected (ht : s.HasTable c r) (h : Selects c s r w tests S) :
    ∃ s', remove c w s = .ok (S.length, s') ∧ (s'.entities c).Sublist (s.entities c) ∧
      (∀ e, e ∈ s'.entities c ↔ e ∈ s.entities c ∧ e ∉ S) ∧ SameElsewhere c s s' := by
  refine ⟨s.put (r.delete tests).2, ?_, ?_, fun e => ?_, ht.sameElsewhere⟩
  · rw [h.length_eq]
    exact bind_eq_ok_iff.mpr ⟨_, h.met ht.relation 1, rfl⟩
  · rw [Relation.delete, ht.entities, ht.entities_put]
    exact List.filter_sublist.map _
  · rw [Relation.delete, ht.entities, ht.entities_put, List.mem_map, List.mem_map]
    constructor
    · rintro ⟨t, hmem, rfl⟩
      obtain ⟨hrows, hkept⟩ := List.mem_filter.mp hmem
      refine ⟨⟨t, hrows, rfl⟩, fun hS => ?_⟩
      rw [(h.mem t hrows).mpr hS] at hkept
      cases hkept
    · rintro ⟨⟨t, hrows, rfl⟩, hS⟩
      refine ⟨t, List.mem_filter.mpr ⟨hrows, ?_⟩, rfl⟩
      rw [Bool.not_eq_true', Bool.eq_false_iff]
      exact fun hholds => hS ((h.mem t hrows).mp hholds)

/-- What is given is set in a row that is changed, and nothing else is. -/
theorem sets_change (ht : s.HasTable c r) (hnames : (c.fields.map (·.name)).Nodup) {changes : Named}
    {only : Option (List String)} {changed : List (Field × Value)} {cells t : Tuple}
    (hchanged : fieldsOf c .unknownAttribute (changes.restrict only) = .ok changed)
    (hcells : bindAll 1 changed = .ok cells) (hrow : t ∈ r.rows) :
    Sets c changes only (entityOf c t) (entityOf c (t.change cells)) := by
  have hcell {f : Field} (hf : f ∈ c.fields) : (t.change cells).cell f.name = (cells.lookup f.name).getD (t.cell f.name) :=
    Tuple.cell_change_of_mem cells (ht.shaped.mem_names hrow (ht.cls ▸ hf))
  constructor
  · intro f hf v x hv hx
    have hbound := lookup_of_bindAll hcells f.name
    rw [find?_of_fieldsOf hchanged (field?_name hnames hf), Named.lookup_restrict, hv] at hbound
    obtain ⟨cell, hcell', hlookup⟩ := hbound
    rw [valueOf?_entityOf hf, hcell hf, hlookup, Option.getD_some, (value_of_bind hx hcell').1]
  · intro f hf hnone
    have hbound := lookup_of_bindAll hcells f.name
    rw [find?_of_fieldsOf hchanged (field?_name hnames hf), Named.lookup_restrict, hnone] at hbound
    rw [valueOf?_entityOf hf, valueOf?_entityOf hf, hcell hf, show cells.lookup f.name = none from hbound]
    rfl

/-- What is found is changed. -/
theorem update_selected (ht : s.HasTable c r) (hnames : (c.fields.map (·.name)).Nodup)
    (h : Selects c s r w tests S) {changes : Named} {only : Option (List String)} {n : Nat}
    (hupdate : update c (changes.restrict only) w s = .ok (n, s')) :
    n = S.length ∧ (∃ es, es.Perm (s'.entities c) ∧
      List.Forall₂ (fun e e' => (e ∉ S → e' = e) ∧ (e ∈ S → Sets c changes only e e')) (s.entities c) es) ∧
      SameElsewhere c s s' := by
  obtain ⟨r₁, r', tested, changed, cells, tests₁, hr, htested, hchanged, hcells, htests, hrows, rfl⟩ :=
    update_eq_ok hupdate
  cases hr.symm.trans ht.relation
  -- the condition stands behind the changes here, and is bound to the same tests
  obtain ⟨fields, hfields, hbound⟩ := h.tested
  cases htested.symm.trans hfields
  cases htests.symm.trans (hbound _)
  obtain ⟨-, rfl⟩ := Relation.update_eq_ok hrows
  refine ⟨(Relation.update_counts hrows).1.trans h.length_eq.symm, ?_, ht.sameElsewhere⟩
  refine ⟨(r.changed tests cells).map (entityOf c), ?_, ?_⟩
  · rw [ht.entities_put]
    exact ((r.arranged_perm _).map _).symm
  · rw [ht.entities, Relation.changed, List.forall₂_map_left_iff, List.map_map, List.forall₂_map_right_iff,
      List.forall₂_same]
    intro t hrow
    rw [← h.mem t hrow, Function.comp_apply, Relation.changedRow]
    split
    next hholds => exact ⟨fun hnot => absurd hholds hnot, fun _ => sets_change ht hnames hchanged hcells hrow⟩
    next hnot => exact ⟨fun _ => rfl, fun hholds => absurd hholds hnot⟩

/-- **A condition means the same entities to every operation**: those that are found are those of which one is found,
those that are removed, and those that are changed. -/
theorem one_meaning_of_condition (hcs : IsSchema cs) (hs : Reachable cs s) (hc : c ∈ cs)
    (hnames : (c.fields.map (·.name)).Nodup) (w : Named) :
    (Known c w → ∃ S, findAll c w s = .ok (.list S)) ∧
      ∀ S, findAll c w s = .ok (.list S) → OneMeaning c s w S := by
  obtain ⟨r, ht⟩ := hs.hasTable hcs hc
  refine ⟨ht.findAll_ok, fun S hS => ?_⟩
  obtain ⟨tests, h⟩ := ht.selects hS
  exact {
    found := h.found ht
    none := fun hempty => by
      rcases findOne_selected ht h with ⟨-, hone⟩ | ⟨t, hselected, -⟩
      · exact hone
      · have hmem : entityOf c t ∈ S := h.perm.mem_iff.mpr (List.mem_map_of_mem hselected)
        rw [hempty] at hmem
        cases hmem
    one := findOne_least ht h
    removed := remove_selected ht h
    updated := fun changes only n s' hupdate => update_selected ht hnames h hupdate }

/-- Two people of one age. -/
def addTwoPeople : List (EntityClass × Operation) :=
  [(Catalogue.person, .create [("name", .str "Ada"), ("age", .int 36)]),
    (Catalogue.person, .create [("name", .str "Alan"), ("age", .int 36)])]

/-- Those of that age, to every operation. -/
theorem one_meaning_of_condition_on_people :
    IsSchema Catalogue.mapped ∧ Reachable Catalogue.mapped ((ofClasses Catalogue.mapped).run addTwoPeople) ∧
      Catalogue.person ∈ Catalogue.mapped ∧ (Catalogue.person.fields.map (·.name)).Nodup ∧
      ∃ S, findAll Catalogue.person [("age", .int 36)] ((ofClasses Catalogue.mapped).run addTwoPeople) =
          .ok (.list S) ∧
        OneMeaning Catalogue.person ((ofClasses Catalogue.mapped).run addTwoPeople) [("age", .int 36)] S := by
  have hschema : IsSchema Catalogue.mapped := ⟨by decide, by decide⟩
  have hreachable : Reachable Catalogue.mapped ((ofClasses Catalogue.mapped).run addTwoPeople) :=
    ⟨addTwoPeople, by decide, rfl⟩
  have hmember : Catalogue.person ∈ Catalogue.mapped := by decide
  have hnames : (Catalogue.person.fields.map (·.name)).Nodup := by decide
  obtain ⟨hfound, hmeaning⟩ := one_meaning_of_condition hschema hreachable hmember hnames [("age", .int 36)]
  obtain ⟨S, hS⟩ := hfound ⟨by decide, by decide⟩
  exact ⟨hschema, hreachable, hmember, hnames, S, hS, hmeaning S hS⟩

end Store
end SqlMapper
