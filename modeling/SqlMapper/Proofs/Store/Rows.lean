import SqlMapper.Proofs.Store.Binding
import SqlMapper.Proofs.Store.RowByRow
import SqlMapper.Proofs.Store.Runs
/-!
# SqlMapper.Proofs.Store.Rows

The rows of the tables that operations lead to (`Reachable.hasTable`). A row has a cell for each attribute of its class
(`Relation.Shaped`), so that the entities of a table tell all that is in it; a generated key is an integer, and the rows
are kept in its order.
-/

namespace SqlMapper

/-! ### Rows -/

/-- What is listed by the names of fields is found under them. -/
theorem lookup_map_name {β : Type} (g : String → β) {fs : List Field} {f : Field} (hf : f ∈ fs) :
    (fs.map fun f => (f.name, g f.name)).lookup f.name = some (g f.name) := by
  induction fs with
  | nil => cases hf
  | cons f' fs ih =>
      rw [List.map_cons, List.lookup_cons]
      cases hname : f.name == f'.name with
      | true => simp [eq_of_beq hname]
      | false =>
          have hne : f ≠ f' := by
            rintro rfl
            simp at hname
          exact ih ((List.mem_cons.mp hf).resolve_left hne)

namespace Tuple

variable {t : Tuple} {a : String}

/-- The attributes that a row has a cell for. -/
def names (t : Tuple) : List String := t.map (·.1)

@[simp] theorem names_change (t changes : Tuple) : (t.change changes).names = t.names := by simp [names, change]

theorem mem_of_cell_eq_int {n : Int} (h : t.cell a = .int n) : (a, .int n) ∈ t := by
  unfold cell at h
  cases hlookup : t.lookup a with
  | none =>
      rw [hlookup] at h
      cases h
  | some c =>
      rw [hlookup, Option.getD_some] at h
      obtain ⟨before, behind, rfl, -⟩ := List.lookup_eq_some_iff.mp hlookup
      simp [h]

/-- An attribute gets its new value, if it is to have one. -/
theorem cell_change_of_mem (changes : Tuple) (h : a ∈ t.names) :
    (t.change changes).cell a = (changes.lookup a).getD (t.cell a) := by
  obtain ⟨e, he, rfl⟩ := List.mem_map.mp h
  have hsome : (t.lookup e.1).isSome := List.lookup_isSome_iff.mpr ⟨e, he, beq_self_eq_true _⟩
  obtain ⟨c, hc⟩ := Option.isSome_iff_exists.mp hsome
  rw [cell, cell, lookup_change, hc]
  rfl

/-- The integer in a cell. -/
def number (t : Tuple) (a : String) : Int :=
  match t.cell a with
  | .int n => n
  | _ => 0

theorem number_eq {n : Int} (h : t.cell a = .int n) : t.number a = n := by rw [number, h]

end Tuple

/-! ### Generated keys -/

theorem EntityClass.generated?_eq_some {c : EntityClass} {f : Field} (h : c.generated? = some f) :
    c.keyFields = [f] ∧ f.type = .integer ∧ f ∈ c.fields := by
  unfold generated? at h
  split at h
  next g hkey =>
    split at h
    next htype =>
      cases h
      exact ⟨hkey, htype, List.mem_of_mem_filter (hkey ▸ List.mem_singleton_self f)⟩
    next => cases h
  next => cases h

/-- Is a cell an integer of 64 bits? -/
def Cell.IsId (c : Cell) : Prop := ∃ n : Int, c = .int n ∧ fits n = true

namespace Relation

variable {r r' : Relation} {f : Field} {t u : Tuple} {ts : List Tuple}

/-- The next key is the greatest plus one, or 1, if there is room for one more. -/
theorem nextKey_spec (hkeyed : ∀ t ∈ r.rows, (t.cell f.name).IsId)
    (hroom : ∀ t ∈ r.rows, ∀ n, t.cell f.name = .int n → n < Number.twoTo 63 - 1) :
    (r.rows = [] ∧ r.nextKey f = 1) ∨
      (∃ t ∈ r.rows, t.cell f.name = .int (r.nextKey f - 1)) ∧
        ∀ t ∈ r.rows, ∀ n, t.cell f.name = .int n → n < r.nextKey f := by
  unfold nextKey
  generalize hkeys : (r.rows.filterMap fun t => match t.cell f.name with
    | .int n => some n
    | _ => none) = keys
  have hmem (n : Int) : n ∈ keys ↔ ∃ t ∈ r.rows, t.cell f.name = .int n := by
    rw [← hkeys, List.mem_filterMap]
    refine exists_congr fun t => and_congr_right fun _ => ?_
    cases t.cell f.name <;> simp
  cases keys with
  | nil =>
      refine .inl ⟨List.eq_nil_iff_forall_not_mem.mpr fun t ht => ?_, rfl⟩
      obtain ⟨n, hn, -⟩ := hkeyed t ht
      cases (hmem n).mpr ⟨t, ht, hn⟩
  | cons n ns =>
      obtain ⟨hgreatest, hle⟩ := List.max?_eq_some_iff.mp (List.max?_cons' : (n :: ns).max? = _)
      obtain ⟨t, ht, hlast⟩ := (hmem _).mp hgreatest
      have hfits : Cell.fits (ns.foldl max n + 1) = true := by
        obtain ⟨m, hm, hfits⟩ := hkeyed t ht
        have hless := hroom t ht _ hlast
        rw [hlast, Cell.int.injEq] at hm
        subst hm
        simp only [Cell.fits, Bool.and_eq_true, decide_eq_true_eq] at hfits ⊢
        omega
      dsimp only
      rw [if_pos hfits]
      exact .inr ⟨⟨t, ht, by rw [hlast, Int.add_sub_cancel]⟩,
        fun u hu m hm => Int.lt_add_one_of_le (hle m ((hmem m).mpr ⟨u, hu, hm⟩))⟩

theorem withKey_eq_ok (h : r.withKey t = .ok u) :
    (r.cls.generated? = none ∧ u = t) ∨ ∃ f, r.cls.generated? = some f ∧
      ((t.cell f.name = .null ∧ Cell.fits (r.nextKey f) = true ∧
          u = t.change [(f.name, .int (r.nextKey f))]) ∨
        (∃ n, t.cell f.name = .int n) ∧ u = t) := by
  unfold withKey at h
  split at h
  next hnone => exact .inl ⟨hnone, (Except.ok.inj h).symm⟩
  next f hsome =>
    refine .inr ⟨f, hsome, ?_⟩
    split at h
    next hnull =>
      split at h
      next hfits => exact .inl ⟨hnull, hfits, (Except.ok.inj h).symm⟩
      next => cases h
    next n hint => exact .inr ⟨⟨n, hint⟩, (Except.ok.inj h).symm⟩
    next => cases h

/-- An update says how many rows meet the condition, and no generated key of theirs becomes anything but an integer. -/
theorem update_counts {w : Condition} {changes : Tuple} {n : Nat} (h : r.update w changes = .ok (n, r')) :
    n = r.rows.countP w.holds ∧ (n ≠ 0 → r.spoilsKey changes = false) := by
  rw [update] at h
  split at h
  · cases h
  next hspoils =>
    obtain ⟨r'', -, h⟩ := bind_eq_ok_iff.mp h
    cases h
    exact ⟨rfl, fun hn => by simpa [hn] using hspoils⟩

/-- Rows that are sorted by an integer key are in its order. -/
theorem pairwise_sorted (hf : r.cls.generated? = some f) (hts : ∀ t ∈ ts, (t.cell f.name).IsId) :
    (r.sorted ts).Pairwise fun t u => t.number f.name ≤ u.number f.name := by
  have hkeys := (EntityClass.generated?_eq_some hf).1
  -- on these rows the order of keys is that of the integers, which the library can sort by
  have horder : ∀ t ∈ ts, ∀ u ∈ ts,
      (orderKeys (r.key t) (r.key u) != .gt) = decide (t.number f.name ≤ u.number f.name) := by
    intro t ht u hu
    obtain ⟨m, hm, -⟩ := hts t ht
    obtain ⟨n, hn, -⟩ := hts u hu
    have hcompare : (compare m n != .gt) = decide (m ≤ n) := by
      rw [← Bool.coe_iff_coe]
      simp [compare_le_iff_le]
    simpa [key, hkeys, orderKeys, hm, hn, Cell.order, Tuple.number_eq hm, Tuple.number_eq hn] using hcompare
  have hsorted : ((ts.map (·.number f.name)).mergeSort fun m n => decide (m ≤ n)).Pairwise (· ≤ ·) := by
    simpa using @List.pairwise_mergeSort Int (fun m n => decide (m ≤ n)) (by simpa using fun _ _ _ => le_trans)
      (by simpa using le_total) (ts.map (·.number f.name))
  rwa [← List.map_mergeSort horder, List.pairwise_map] at hsorted

/-- What is read first is one of the rows that meet the condition, if there are any. -/
theorem first?_cases (r : Relation) (w : Condition) :
    (r.select w = [] ∧ r.first? w = none) ∨ ∃ t ∈ r.select w, r.first? w = some t := by
  have hhead {ts : List Tuple} (hp : ts.Perm (r.select w)) :
      (r.select w = [] ∧ ts.head? = none) ∨ ∃ t ∈ r.select w, ts.head? = some t := by
    cases ts with
    | nil => exact .inl ⟨hp.nil_eq.symm, rfl⟩
    | cons t ts => exact .inr ⟨t, hp.subset List.mem_cons_self, rfl⟩
  unfold first?
  split
  · split
    · exact hhead (List.mergeSort_perm _ _)
    · exact hhead (List.Perm.refl _)
  · exact hhead (List.Perm.refl _)

/-- Where keys are generated, it is the one with the least. -/
theorem first?_least {w : Condition} (hf : r.cls.generated? = some f)
    (hordered : r.rows.Pairwise fun t u => t.number f.name ≤ u.number f.name) (h : r.first? w = some t) :
    ∀ u ∈ r.select w, t.number f.name ≤ u.number f.name := by
  have hselected : (r.select w).Pairwise fun t u => t.number f.name ≤ u.number f.name :=
    hordered.sublist List.filter_sublist
  rw [first?, (EntityClass.generated?_eq_some hf).1] at h
  obtain ⟨ts, hts⟩ := List.head?_eq_some_iff.mp h
  rw [hts, List.pairwise_cons] at hselected
  rw [hts]
  exact List.forall_mem_cons.mpr ⟨le_rfl, hselected.1⟩

/-! ### Tables as they are kept -/

/-- Are the rows of a table as its class wants them? -/
structure Shaped (r : Relation) : Prop where
  /-- Each has a cell for each attribute. -/
  names : ∀ t ∈ r.rows, t.names = r.cls.fields.map (·.name)
  /-- Generated keys are integers. -/
  keyed : ∀ f, r.cls.generated? = some f → ∀ t ∈ r.rows, (t.cell f.name).IsId
  /-- The rows are in their order. -/
  ordered : ∀ f, r.cls.generated? = some f → r.rows.Pairwise fun t u => t.number f.name ≤ u.number f.name

theorem shaped_arranged (hnames : ∀ t ∈ ts, t.names = r.cls.fields.map (·.name))
    (hkeyed : ∀ f, r.cls.generated? = some f → ∀ t ∈ ts, (t.cell f.name).IsId) :
    Shaped { r with rows := r.arranged ts } where
  names t ht := hnames t ((r.arranged_perm ts).mem_iff.mp ht)
  keyed f hf t ht := hkeyed f hf t ((r.arranged_perm ts).mem_iff.mp ht)
  ordered f hf := by
    have hgenerated : r.cls.generated? = some f := hf
    simp only [arranged, hgenerated, Option.isSome_some, if_true]
    exact pairwise_sorted hgenerated (hkeyed f hgenerated)

namespace Shaped

theorem mem_names (h : r.Shaped) (ht : t ∈ r.rows) (hf : f ∈ r.cls.fields) : f.name ∈ t.names := by
  rw [h.names t ht]
  exact List.mem_map_of_mem hf

/-- Adding a row keeps the rows as the class wants them. -/
theorem insert (h : r.Shaped) (hnames : t.names = r.cls.fields.map (·.name))
    (hfits : ∀ a n, t.cell a = .int n → Cell.fits n = true) (hkey : r.withKey t = .ok u) :
    Shaped { r with rows := r.arranged (r.rows ++ [u]) } := by
  refine shaped_arranged ?_ fun f hf => ?_
  · simp only [List.forall_mem_append, List.forall_mem_singleton]
    refine ⟨h.names, ?_⟩
    rcases withKey_eq_ok hkey with ⟨-, rfl⟩ | ⟨f, -, ⟨-, -, rfl⟩ | ⟨-, rfl⟩⟩
    · exact hnames
    · rw [Tuple.names_change, hnames]
    · exact hnames
  · simp only [List.forall_mem_append, List.forall_mem_singleton]
    refine ⟨h.keyed f hf, ?_⟩
    rcases withKey_eq_ok hkey with ⟨hnone, -⟩ | ⟨f', hf', ⟨-, hnext, rfl⟩ | ⟨⟨n, hn⟩, rfl⟩⟩
    · rw [hf] at hnone
      cases hnone
    · cases hf.symm.trans hf'
      have hmem : f.name ∈ t.names := by
        rw [hnames]
        exact List.mem_map_of_mem (EntityClass.generated?_eq_some hf).2.2
      exact ⟨r.nextKey f, by simp [Tuple.cell_change_of_mem _ hmem], hnext⟩
    · cases hf.symm.trans hf'
      exact ⟨n, hn, hfits _ n hn⟩

/-- So does changing rows. -/
theorem update {w : Condition} {changes : Tuple} {n : Nat} (h : r.Shaped)
    (hfits : ∀ a n, changes.lookup a = some (.int n) → Cell.fits n = true)
    (hupdate : r.update w changes = .ok (n, r')) : r'.Shaped := by
  obtain ⟨hcount, hspares⟩ := update_counts hupdate
  obtain ⟨-, rfl⟩ := Relation.update_eq_ok hupdate
  refine shaped_arranged ?_ fun f hf => ?_
  · intro t ht
    obtain ⟨u, hu, rfl⟩ := List.mem_map.mp ht
    unfold changedRow
    split
    · rw [Tuple.names_change, h.names u hu]
    · exact h.names u hu
  · intro t ht
    obtain ⟨u, hu, rfl⟩ := List.mem_map.mp ht
    unfold changedRow
    split
    next hholds =>
      -- since this row is changed, the update has been refused unless the key stays an integer
      have hne : n ≠ 0 := by
        rw [hcount]
        exact (List.countP_pos_iff.mpr ⟨u, hu, hholds⟩).ne'
      have hspoils := hspares hne
      rw [Tuple.cell_change_of_mem _ (h.mem_names hu (EntityClass.generated?_eq_some hf).2.2)]
      rw [spoilsKey, hf, Option.bind_some] at hspoils
      cases hlookup : changes.lookup f.name with
      | none => exact h.keyed f hf u hu
      | some c =>
          rw [hlookup] at hspoils
          cases c with
          | int m => exact ⟨m, rfl, hfits _ m hlookup⟩
          | null | real x | text s | blob bs => cases hspoils
    next => exact h.keyed f hf u hu

/-- So does removing rows. -/
theorem delete (h : r.Shaped) (w : Condition) : (r.delete w).2.Shaped where
  names t ht := h.names t (List.mem_of_mem_filter ht)
  keyed f hf t ht := h.keyed f hf t (List.mem_of_mem_filter ht)
  ordered f hf := (h.ordered f hf).sublist List.filter_sublist

end Shaped

end Relation

namespace Store

variable {cs : List EntityClass} {c d : EntityClass} {s s' : Store} {r r' : Relation} {op : Operation}

/-! ### Entities -/

/-- Rows stand for the same entity if and only if they agree in all attributes. -/
theorem entityOf_eq_iff {t u : Tuple} :
    entityOf c t = entityOf c u ↔ ∀ f ∈ c.fields, t.cell f.name = u.cell f.name := by
  unfold entityOf
  rw [Value.entity.injEq]
  simp [Cell.value_injective.eq_iff]

theorem valueOf?_entityOf {f : Field} (hf : f ∈ c.fields) (t : Tuple) :
    valueOf? (entityOf c t) f.name = some (t.cell f.name).value :=
  lookup_map_name (fun a => (t.cell a).value) hf

/-! ### Tables in a store -/

/-- A table that is replaced keeps its name, by which tables are found. -/
theorem find?_put (s : Store) (r' : Relation) (name : String) :
    (s.put r').find? (·.cls.tableName == name) =
      (s.find? (·.cls.tableName == name)).map fun q => if q.cls.tableName == r'.cls.tableName then r' else q := by
  have hname : (fun q : Relation => q.cls.tableName == name) ∘
      (fun q => if q.cls.tableName == r'.cls.tableName then r' else q) = fun q => q.cls.tableName == name := by
    funext q
    rw [Function.comp_apply]
    split
    next h => rw [eq_of_beq h]
    next => rfl
  rw [put, List.find?_map, hname]

theorem relation_put (hr : s.relation c = .ok r) (hcls : r'.cls = r.cls) : (s.put r').relation c = .ok r' := by
  have hname := (relation_eq_ok hr).2
  unfold relation at hr ⊢
  rw [find?_put]
  cases hfind : s.find? fun q => q.cls.tableName == c.tableName with
  | none =>
      rw [hfind] at hr
      cases hr
  | some q =>
      have hq : q.cls.tableName = c.tableName := by simpa using List.find?_some hfind
      simp [hcls, hname, hq]

theorem relation_put_of_ne (h : d.tableName ≠ r'.cls.tableName) : (s.put r').relation d = s.relation d := by
  unfold relation
  rw [find?_put]
  cases hfind : s.find? fun q => q.cls.tableName == d.tableName with
  | none => rfl
  | some q =>
      have hq : q.cls.tableName = d.tableName := by simpa using List.find?_some hfind
      simp [hq, h]

/-- The entities in the table of a class, in the order in which the table keeps them. -/
def entities (s : Store) (c : EntityClass) : List Value :=
  match s.relation c with
  | .ok r => r.rows.map (entityOf c)
  | .error _ => []

/-- Is everything in two stores the same but for the table of a class? -/
structure SameElsewhere (c : EntityClass) (s s' : Store) : Prop where
  classes : s'.map (·.cls) = s.map (·.cls)
  relations : ∀ d, d.tableName ≠ c.tableName → s'.relation d = s.relation d

/-- Is there a table of a class in a store, as the class wants it, and with its constraints kept? -/
structure HasTable (s : Store) (c : EntityClass) (r : Relation) : Prop where
  relation : s.relation c = .ok r
  cls : r.cls = c
  shaped : r.Shaped
  sound : r.Sound
  names : (s.map (·.cls.tableName)).Nodup

namespace HasTable

variable {rows : List Tuple}

theorem entities (h : s.HasTable c r) : s.entities c = r.rows.map (entityOf c) := by rw [Store.entities, h.relation]

theorem entities_put (h : s.HasTable c r) : (s.put { r with rows }).entities c = rows.map (entityOf c) := by
  have hput : (s.put { r with rows }).relation c = .ok { r with rows } := relation_put h.relation rfl
  rw [Store.entities, hput]

/-- Rows of different keys stand for different entities. -/
theorem nodup_entities (h : s.HasTable c r) : (s.entities c).Nodup := by
  rw [h.entities, List.Nodup, List.pairwise_map]
  refine h.sound.keysDistinct.imp_of_mem fun {t u} ht _ hdiffer heq => ?_
  have hsame : r.sameKey t u = true := by
    refine List.all_eq_true.mpr fun f hf => ?_
    have hfields : f ∈ c.fields := h.cls ▸ List.mem_of_mem_filter hf
    rw [← entityOf_eq_iff.mp heq f hfields]
    exact Cell.equals_self (h.sound.keysFilled t ht f hf)
  rw [hsame] at hdiffer
  cases hdiffer

theorem sameElsewhere (h : s.HasTable c r) : SameElsewhere c s (s.put { r with rows }) where
  classes := put_classes h.names (relation_eq_ok h.relation).1 rfl
  relations d hd := relation_put_of_ne (by simpa [h.cls] using hd)

end HasTable

/-! ### Reachable stores -/

/-- **What a step comes to**: nothing, or one of the three ways to write. -/
theorem step_cases (s : Store) (c : EntityClass) (op : Operation) :
    s.step c op = s ∨ (∃ vs v, create c vs s = .ok (v, s.step c op)) ∨
      (∃ changes w n, update c changes w s = .ok (n, s.step c op)) ∨ ∃ w n, remove c w s = .ok (n, s.step c op) := by
  unfold step
  split
  next v s' h =>
    cases op with
    | save record only => exact .inr (.inl ⟨_, v, h⟩)
    | create vs => exact .inr (.inl ⟨vs, v, h⟩)
    | findByKey _ | findOne _ | findAll _ => exact .inl (reading_eq_ok h).2
    | update changes w only => exact .inr (.inr (.inl ⟨_, w, counting_eq_ok h⟩))
    | remove w => exact .inr (.inr (.inr ⟨w, counting_eq_ok h⟩))
  next => exact .inl rfl

/-- Is a class the only one of its table, as far as there are tables? -/
def OwnsTable (cs : List EntityClass) (c : EntityClass) : Prop := ∀ d ∈ cs, d.tableName = c.tableName → d = c

instance (cs : List EntityClass) (c : EntityClass) : Decidable (OwnsTable cs c) :=
  inferInstanceAs (Decidable (∀ d ∈ cs, d.tableName = c.tableName → d = c))

/-- **One operation keeps all tables as their classes want them.** -/
theorem shaped_step (hs : Kept cs s) (hc : OwnsTable cs c) (hshaped : ∀ r ∈ s, r.Shaped) (op : Operation) :
    ∀ r ∈ s.step c op, r.Shaped := by
  have hcls {r : Relation} (hr : s.relation c = .ok r) : r.Shaped ∧ r.cls = c := by
    obtain ⟨hmem, hname⟩ := relation_eq_ok hr
    exact ⟨hshaped r hmem, hc r.cls (hs.classes ▸ List.mem_map_of_mem hmem) hname⟩
  have hput {r' : Relation} (hr' : r'.Shaped) : ∀ q ∈ s.put r', q.Shaped := fun q hq =>
    (mem_put hq).elim (fun h => h ▸ hr') (hshaped q)
  rcases step_cases s c op with hsame | ⟨vs, v, h⟩ | ⟨changes, w, n, h⟩ | ⟨w, n, h⟩
  · rwa [hsame]
  · obtain ⟨r, given, t, hr, hgiven, hkey, -, -, hstored⟩ := create_eq_ok h
    obtain ⟨hshaped, rfl⟩ := hcls hr
    rw [hstored]
    refine hput (hshaped.insert (by simp [Tuple.names]) (fun a n ha => ?_) hkey)
    obtain ⟨f, -, hf⟩ := List.mem_map.mp (Tuple.mem_of_cell_eq_int ha)
    exact fits_of_bindAll hgiven (Tuple.mem_of_cell_eq_int (Prod.ext_iff.mp hf).2)
  · obtain ⟨r, r', tested, changed, cells, tests, hr, -, -, hcells, -, hupdate, hstored⟩ := update_eq_ok h
    rw [hstored]
    refine hput ((hcls hr).1.update (fun a n ha => ?_) hupdate)
    obtain ⟨before, behind, rfl, -⟩ := List.lookup_eq_some_iff.mp ha
    exact fits_of_bindAll hcells (List.mem_append_right _ List.mem_cons_self)
  · obtain ⟨r, tests, hmet, -, hstored⟩ := remove_eq_ok h
    obtain ⟨-, -, hr, -⟩ := condition_eq_ok hmet
    rw [hstored]
    exact hput ((hcls hr).1.delete tests)

/-- The stores that operations lead to, from the empty tables of some classes. -/
def Reachable (cs : List EntityClass) (s : Store) : Prop :=
  ∃ ops, (∀ o ∈ ops, OwnsTable cs o.1) ∧ s = (ofClasses cs).run ops

theorem shaped_run (hcs : IsSchema cs) (hs : Kept cs s) (hshaped : ∀ r ∈ s, r.Shaped)
    {ops : List (EntityClass × Operation)} (hops : ∀ o ∈ ops, OwnsTable cs o.1) : ∀ r ∈ s.run ops, r.Shaped := by
  induction ops generalizing s with
  | nil => exact hshaped
  | cons o ops ih =>
      obtain ⟨ho, hops⟩ := List.forall_mem_cons.mp hops
      exact ih (hs.step hcs o.1 o.2) (shaped_step hs ho hshaped o.2) hops

/-- **In every reachable store each class has its table.** -/
theorem Reachable.hasTable (hcs : IsSchema cs) (hs : Reachable cs s) (hc : c ∈ cs) : ∃ r, s.HasTable c r := by
  obtain ⟨ops, hops, rfl⟩ := hs
  have hkept := (kept_ofClasses cs).run hcs ops
  have hempty : ∀ r ∈ ofClasses cs, r.Shaped := by
    intro r hr
    obtain ⟨d, -, rfl⟩ := List.mem_map.mp hr
    exact ⟨by simp, by simp, by simp⟩
  have hshaped := shaped_run hcs (kept_ofClasses cs) hempty hops
  have hnames : (((ofClasses cs).run ops).map (·.cls.tableName)).Nodup := by
    have := hcs.names
    rwa [← hkept.classes, List.map_map] at this
  rw [← hkept.classes] at hc
  obtain ⟨r, hr, rfl⟩ := List.mem_map.mp hc
  refine ⟨r, ?_, rfl, hshaped r hr, hkept.sound hcs hr, hnames⟩
  rw [relation, find?_of_nodup hnames hr]

end Store
end SqlMapper
