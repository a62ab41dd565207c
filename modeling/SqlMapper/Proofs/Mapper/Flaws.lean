import Mathlib
import SqlMapper.Proofs.Mapper.Statements
import SqlMapper.Proofs.Value.Outcome
/-!
# SqlMapper.Proofs.Mapper.Flaws

When a document has a table, and why it has none. The items of a document are gone through in order, and what is
wrong with one of them is a matter of the items before it (`Flaw`). The invariant of the walk is that the table so
far describes the items so far, and that these are flawless (`Built`). Items are flawless up to the first one with
a flaw (`Flawless.or_first`, `Flawless.or_fails`); up to there the walk succeeds (`Built.addEntries_append`), and
there it fails as the flaw says (`FailsBehind.ofDocument_eq`).
-/

namespace SqlMapper.Mapper

/-! ### Items -/

/-- An item of a document, with the key of its entry. -/
structure Item where
  key : String
  value : Value

/-- What an item has for an id. -/
inductive ItemId
  /-- Nothing, or something empty. -/
  | missing
  | text (id : String)
  /-- A list or a mapping, by its type: nothing can be found under such an id. -/
  | collection (type : String)

/-- What may stand where an id is looked for. -/
inductive MayBeId : Option Value → Prop
  | absent : MayBeId none
  | null : MayBeId (some .null)
  | text (s : String) : MayBeId (some (.str s))
  | list (xs : List Value) : MayBeId (some (.list xs))
  | mapping (es : List (Value × Value)) : MayBeId (some (.dict es))

namespace Item

/-- The id of an item. -/
def id (i : Item) : ItemId :=
  match part? i.value nameKey with
  | some (.str s) => if s = "" then .missing else .text s
  | some (.list (_ :: _)) => .collection "list"
  | some (.dict (_ :: _)) => .collection "dict"
  | _ => .missing

/-- The body of an item. -/
def body (i : Item) : Value := (part? i.value textKey).getD (.str "")

/-- Does an item say that its result stands for its first element? -/
def isSingle (i : Item) : Bool := ((part? i.value singleKey).map saysTrue).getD false

/-- Only a text that is not empty is an id that is a text. -/
theorem id_eq_text_iff {i : Item} {s : String} :
    i.id = .text s ↔ part? i.value nameKey = some (.str s) ∧ s ≠ "" := by
  unfold Item.id
  constructor
  · intro h
    split at h
    case h_1 s' hpart =>
        split at h
        case isTrue => cases h
        case isFalse hs =>
            cases h
            exact ⟨hpart, hs⟩
    case h_2 => cases h
    case h_3 => cases h
    case h_4 => cases h
  · rintro ⟨hpart, hs⟩
    rw [hpart]
    exact if_neg hs

/-- An id that is a text is a name. -/
theorem itemName_of_text {i : Item} {s : String} (h : i.id = .text s) : itemName i.key i.value = .ok (.str s) := by
  obtain ⟨hpart, hs⟩ := id_eq_text_iff.mp h
  have htruth : (Value.str s).truth = .ok true := by simp [Value.truth, hs]
  unfold itemName
  rw [hpart]
  simp only [htruth]
  rfl

theorem itemName_of_missing {i : Item} (hid : MayBeId (part? i.value nameKey)) (h : i.id = .missing) :
    itemName i.key i.value = .error (.unnamed i.key) := by
  unfold Item.id at h
  unfold itemName
  generalize part? i.value nameKey = part at hid h
  cases hid with
  | absent | null => rfl
  | text s =>
      by_cases hs : s = ""
      · subst hs
        rfl
      · simp [hs] at h
  | list xs =>
      cases xs with
      | nil => rfl
      | cons => cases h
  | mapping es =>
      cases es with
      | nil => rfl
      | cons => cases h

theorem itemName_of_collection {i : Item} {type : String} (h : i.id = .collection type) :
    itemName i.key i.value = .error (.failure (.unhashable type)) := by
  unfold Item.id at h
  unfold itemName
  split at h
  case h_1 => split at h <;> cases h
  case h_2 hpart =>
      cases h
      rw [hpart]
      rfl
  case h_3 hpart =>
      cases h
      rw [hpart]
      rfl
  case h_4 => cases h

/-- What is no list and no mapping is no collection. -/
theorem id_ne_collection {i : Item} (h : part? i.value nameKey = none ∨ part? i.value nameKey = some .null ∨
    ∃ s, part? i.value nameKey = some (.str s)) (type : String) : i.id ≠ .collection type := by
  unfold Item.id
  rcases h with h | h | ⟨s, h⟩
  · rw [h]
    exact ItemId.noConfusion
  · rw [h]
    exact ItemId.noConfusion
  · rw [h]
    by_cases hs : s = "" <;> simp [hs]

end Item

theorem exists_type_of_isKind {key : String} (h : isKind key = true) : ∃ type, statementType? key = some type := by
  rwa [isKind_eq, Option.isSome_iff_exists] at h

namespace Document

/-- The items of a document that are to be statements, in order. -/
def items (d : Document) : List Item :=
  (d.filter fun e => isKind e.1).flatMap fun e => (entryItems e.2).map (Item.mk e.1)

/-- What is logged about a document: its entries of other kinds, in order. -/
def warnings (d : Document) : List Event := (d.filter fun e => !isKind e.1).map fun e => .unknownType e.1

theorem items_append (d d' : Document) : items (d ++ d') = items d ++ items d' := by
  unfold items
  rw [List.filter_append, List.flatMap_append]

theorem items_cons (key : String) (v : Value) (d : Document) : items ((key, v) :: d) =
    if isKind key then (entryItems v).map (Item.mk key) ++ items d else items d := by
  unfold items
  rw [List.filter_cons]
  split
  · rw [List.flatMap_cons]
  · rfl

theorem warnings_cons (key : String) (v : Value) (d : Document) : warnings ((key, v) :: d) =
    if isKind key then warnings d else .unknownType key :: warnings d := by
  unfold warnings
  rw [List.filter_cons]
  cases isKind key <;> rfl

end Document

/-! ### Flaws -/

/-- What is wrong with an item that stands behind others, and how this is reported. It is looked for in this
order. -/
inductive Flaw (setting : Setting) (before : List Item) (i : Item) : DocumentError → Prop
  | unnamed (unnamed : i.id = .missing) : Flaw setting before i (.unnamed i.key)
  | unusable {type : String} (unusable : i.id = .collection type) :
      Flaw setting before i (.failure (.unhashable type))
  | duplicate {id : String} (named : i.id = .text id) (taken : ∃ j ∈ before, j.id = .text id) :
      Flaw setting before i (.duplicate id)
  | uncompiled {id : String} {e : DocumentError} (named : i.id = .text id)
      (new : ¬ ∃ j ∈ before, j.id = .text id) (failed : compileBody setting i.body = .error e) :
      Flaw setting before i e

/-- Items with which nothing is wrong. -/
structure Flawless (setting : Setting) (items : List Item) : Prop where
  named : ∀ i ∈ items, ∃ id, i.id = .text id
  distinct : items.Pairwise fun i j => i.id ≠ j.id
  compiles : ∀ i ∈ items, ∃ t, compileBody setting i.body = .ok t

variable {setting : Setting} {before items : List Item} {i : Item} {e : DocumentError}

namespace Flawless

theorem nil : Flawless setting [] := ⟨by simp, List.Pairwise.nil, by simp⟩

theorem left (h : Flawless setting (before ++ items)) : Flawless setting before where
  named i hi := h.named i (List.mem_append_left items hi)
  distinct := (List.pairwise_append.mp h.distinct).1
  compiles i hi := h.compiles i (List.mem_append_left items hi)

theorem concat {id : String} {t : Template} (h : Flawless setting before) (named : i.id = .text id)
    (new : ¬ ∃ j ∈ before, j.id = .text id) (compiles : compileBody setting i.body = .ok t) :
    Flawless setting (before ++ [i]) where
  named := by
    intro j hj
    rcases List.mem_append.mp hj with hj | hj
    · exact h.named j hj
    · rw [List.mem_singleton.mp hj]
      exact ⟨id, named⟩
  distinct := by
    refine List.pairwise_append.mpr ⟨h.distinct, List.pairwise_singleton _ _, fun j hj k hk heq => new ⟨j, hj, ?_⟩⟩
    rw [heq, List.mem_singleton.mp hk, named]
  compiles := by
    intro j hj
    rcases List.mem_append.mp hj with hj | hj
    · exact h.compiles j hj
    · rw [List.mem_singleton.mp hj]
      exact ⟨t, compiles⟩

/-- The last of flawless items has an id of its own, and a body that compiles. -/
theorem last (h : Flawless setting (before ++ [i])) :
    ∃ id t, i.id = .text id ∧ (¬ ∃ j ∈ before, j.id = .text id) ∧ compileBody setting i.body = .ok t := by
  have hi : i ∈ before ++ [i] := List.mem_append_right before List.mem_cons_self
  obtain ⟨id, hid⟩ := h.named i hi
  obtain ⟨t, ht⟩ := h.compiles i hi
  refine ⟨id, t, hid, ?_, ht⟩
  rintro ⟨j, hj, hjid⟩
  exact (List.pairwise_append.mp h.distinct).2.2 j hj i List.mem_cons_self (hjid.trans hid.symm)

/-- An item behind flawless ones is flawless, too, or it has a flaw. -/
theorem or_flaw (h : Flawless setting before) (i : Item) :
    Flawless setting (before ++ [i]) ∨ ∃ e, Flaw setting before i e := by
  cases hid : i.id with
  | missing => exact .inr ⟨_, .unnamed hid⟩
  | collection type => exact .inr ⟨_, .unusable hid⟩
  | text id =>
      by_cases taken : ∃ j ∈ before, j.id = .text id
      · exact .inr ⟨_, .duplicate hid taken⟩
      · cases hbody : compileBody setting i.body with
        | error e => exact .inr ⟨e, .uncompiled hid taken hbody⟩
        | ok t => exact .inl (h.concat hid taken hbody)

/-- Items behind flawless ones are flawless, or one of them is the first with a flaw. -/
theorem or_first (h : Flawless setting before) (items : List Item) :
    Flawless setting (before ++ items) ∨ ∃ done i rest e, items = done ++ i :: rest ∧
      Flawless setting (before ++ done) ∧ Flaw setting (before ++ done) i e := by
  induction items generalizing before with
  | nil => exact .inl (by rwa [List.append_nil])
  | cons i items ih =>
      rcases h.or_flaw i with h' | ⟨e, hflaw⟩
      · rcases ih h' with hall | ⟨done, j, rest, e, hitems, hdone, hflaw⟩
        · exact .inl (by rwa [List.append_assoc, List.singleton_append] at hall)
        · rw [List.append_assoc, List.singleton_append] at hdone hflaw
          exact .inr ⟨i :: done, j, rest, e, by rw [hitems, List.cons_append], hdone, hflaw⟩
      · exact .inr ⟨[], i, items, e, rfl, by rwa [List.append_nil], by rwa [List.append_nil]⟩

end Flawless

/-- What is wrong with an item is one thing. -/
theorem Flaw.unique {e' : DocumentError} (h : Flaw setting before i e) (h' : Flaw setting before i e') : e = e' := by
  cases h with
  | unnamed unnamed =>
      cases h' with
      | unnamed => rfl
      | unusable hid | duplicate hid | uncompiled hid => cases unnamed.symm.trans hid
  | unusable unusable =>
      cases h' with
      | unusable hid =>
          cases unusable.symm.trans hid
          rfl
      | unnamed hid | duplicate hid | uncompiled hid => cases unusable.symm.trans hid
  | duplicate named taken =>
      cases h' with
      | duplicate hid =>
          cases named.symm.trans hid
          rfl
      | unnamed hid | unusable hid => cases named.symm.trans hid
      | uncompiled hid new =>
          cases named.symm.trans hid
          exact absurd taken new
  | uncompiled named new failed =>
      cases h' with
      | uncompiled _ _ failed' => exact Except.error.inj (failed.symm.trans failed')
      | unnamed hid | unusable hid => cases named.symm.trans hid
      | duplicate hid taken =>
          cases named.symm.trans hid
          exact absurd taken new

/-- What a statement owes to its item. -/
structure Describes (setting : Setting) (s : Statement) (i : Item) : Prop where
  name : ∃ id, i.id = .text id ∧ s.name = .str id
  type : s.type.name = String.ofList (Text.upper i.key.toList)
  source : s.source = i.body
  template : compileBody setting i.body = .ok s.template
  single : s.single = i.isSingle

/-- A table that has been made of some items. -/
structure Built (setting : Setting) (table : Table) (items : List Item) : Prop where
  describes : List.Forall₂ (Describes setting) table items
  flawless : Flawless setting items

variable {table : Table} {type : QueryType}

/-- A statement is found under an id if an item has it. -/
theorem get?_isSome_iff (h : List.Forall₂ (Describes setting) table before) (id : String) :
    (table.get? (.str id)).isSome = true ↔ ∃ j ∈ before, j.id = .text id := by
  unfold Table.get?
  induction h with
  | nil => simp
  | cons hs _ ih =>
      obtain ⟨id', hid', hname⟩ := hs.name
      rw [List.find?_cons, hname, Value.sameKey_str]
      by_cases heq : id = id'
      · subst heq
        simp [hid']
      · rw [beq_eq_false_iff_ne.mpr heq, List.exists_mem_cons_iff, hid', ItemId.text.injEq,
          or_iff_right (Ne.symm heq)]
        exact ih

/-- A flawless item adds the statement that describes it. -/
theorem Built.addItem (h : Built setting table before) (htype : statementType? i.key = some type)
    (hi : Flawless setting (before ++ [i])) :
    ∃ s, addItem setting i.key type table i.value = .ok (table ++ [s]) ∧
      Built setting (table ++ [s]) (before ++ [i]) := by
  obtain ⟨id, t, hid, hnew, ht⟩ := hi.last
  have hnone : table.get? (.str id) = none := by
    rwa [← get?_isSome_iff h.describes, Option.not_isSome_iff_eq_none] at hnew
  refine ⟨⟨.str id, type, i.body, t, i.isSingle⟩, addItem_of_new (Item.itemName_of_text hid) hnone ht, ?_, hi⟩
  exact List.rel_append h.describes
    (.cons ⟨⟨id, hid, rfl⟩, (statementType?_eq_some.mp htype).2, rfl, ht, rfl⟩ .nil)

/-- An item with a flaw fails as the flaw says. -/
theorem Flaw.addItem_eq (hflaw : Flaw setting before i e) (h : Built setting table before)
    (hid : MayBeId (part? i.value nameKey)) (type : QueryType) :
    addItem setting i.key type table i.value = .error e := by
  unfold Mapper.addItem
  cases hflaw with
  | unnamed unnamed =>
      rw [Item.itemName_of_missing hid unnamed]
      rfl
  | unusable unusable =>
      rw [Item.itemName_of_collection unusable]
      rfl
  | @duplicate id named taken =>
      rw [← get?_isSome_iff h.describes] at taken
      simp only [Item.itemName_of_text named, bind, Except.bind, taken]
      rfl
  | @uncompiled id e named new failed =>
      rw [← get?_isSome_iff h.describes, Option.not_isSome_iff_eq_none] at new
      rw [Item.body] at failed
      simp only [Item.itemName_of_text named, bind, Except.bind, new, failed]
      rfl

/-- Flawless items add the statements that describe them. -/
theorem Built.foldlM {key : String} (h : Built setting table before) (htype : statementType? key = some type)
    {vs : List Value} (hvs : Flawless setting (before ++ vs.map (Item.mk key))) :
    ∃ table', vs.foldlM (Mapper.addItem setting key type) table = .ok table' ∧
      Built setting table' (before ++ vs.map (Item.mk key)) := by
  induction vs generalizing table before with
  | nil => exact ⟨table, rfl, by rwa [List.map_nil, List.append_nil]⟩
  | cons v vs ih =>
      rw [List.map_cons, List.append_cons] at hvs ⊢
      obtain ⟨s, hadd, h'⟩ := h.addItem (i := ⟨key, v⟩) htype hvs.left
      obtain ⟨table', hfold, h'⟩ := ih h' hvs
      refine ⟨table', ?_, h'⟩
      rw [List.foldlM_cons, hadd]
      exact hfold

/-! ### Documents -/

/-- In a document the first item with a flaw is in the entry behind some others. -/
inductive FailsBehind (setting : Setting) (front : Document) : Document → DocumentError → Prop
  | intro {key : String} {v : Value} {back : Document} {done : List Value} {item : Value} {rest : List Value}
      {e : DocumentError} (kind : isKind key = true) (items : entryItems v = done ++ item :: rest)
      (flawless : Flawless setting (front.items ++ done.map (Item.mk key)))
      (flaw : Flaw setting (front.items ++ done.map (Item.mk key)) ⟨key, item⟩ e) :
      FailsBehind setting front (front ++ (key, v) :: back) e

/-- A document is flawless, or it fails in some entry. -/
theorem Flawless.or_fails (front : Document) (h : Flawless setting front.items) (d : Document) :
    Flawless setting (Document.items (front ++ d)) ∨ ∃ front' e, FailsBehind setting front' (front ++ d) e := by
  induction d generalizing front with
  | nil => exact .inl (by rwa [List.append_nil])
  | cons entry d ih =>
      obtain ⟨key, v⟩ := entry
      have hone : Document.items (front ++ [(key, v)]) =
          front.items ++ if isKind key then (entryItems v).map (Item.mk key) else [] := by
        rw [Document.items_append, Document.items_cons]
        simp [Document.items]
      have hnext : Flawless setting (Document.items (front ++ [(key, v)])) →
          Flawless setting (Document.items (front ++ (key, v) :: d)) ∨
            ∃ front' e, FailsBehind setting front' (front ++ (key, v) :: d) e := by
        intro h'
        have hrest := ih _ h'
        rwa [List.append_assoc, List.singleton_append] at hrest
      cases hkind : isKind key with
      | false =>
          apply hnext
          rw [hone, hkind]
          simpa using h
      | true =>
          rw [hkind, if_pos rfl] at hone
          rcases h.or_first ((entryItems v).map (Item.mk key)) with hall | ⟨done, i, rest, e, hitems, hdone, hflaw⟩
          · exact hnext (by rwa [hone])
          · obtain ⟨vs, ws, hv, rfl, hws⟩ := List.map_eq_append_iff.mp hitems
            obtain ⟨w, ws, rfl, rfl, -⟩ := List.map_eq_cons_iff.mp hws
            exact .inr ⟨front, e, .intro hkind hv hdone hflaw⟩

/-- Over flawless entries the walk succeeds, and goes on behind them. -/
theorem Built.addEntries_append (h : Built setting table before) (front : Document)
    (hfront : Flawless setting (before ++ front.items)) (d : Document) :
    ∃ table', Built setting table' (before ++ front.items) ∧ addEntries setting table (front ++ d) =
      (front.warnings ++ (addEntries setting table' d).1, (addEntries setting table' d).2) := by
  induction front generalizing table before with
  | nil => exact ⟨table, by simpa [Document.items] using h, rfl⟩
  | cons entry front ih =>
      obtain ⟨key, v⟩ := entry
      rw [Document.items_cons] at hfront ⊢
      rw [Document.warnings_cons, List.cons_append, addEntries]
      rw [isKind_eq] at hfront ⊢
      cases htype : statementType? key with
      | none =>
          rw [htype] at hfront
          obtain ⟨table', h', hwalk⟩ := ih h hfront
          refine ⟨table', h', ?_⟩
          dsimp only
          rw [hwalk]
          rfl
      | some type =>
          rw [htype, Option.isSome_some, if_pos rfl, ← List.append_assoc] at hfront
          obtain ⟨table', hfold, h'⟩ := h.foldlM htype hfront.left
          obtain ⟨table', h', hwalk⟩ := ih h' hfront
          rw [Option.isSome_some, if_pos rfl, if_pos rfl, ← List.append_assoc]
          refine ⟨table', h', ?_⟩
          dsimp only
          rw [hfold]
          exact hwalk

theorem Built.nil (setting : Setting) : Built setting [] [] := ⟨.nil, .nil⟩

/-- A flawless document has the table of its items. -/
theorem Flawless.ofDocument_eq {d : Document} (h : Flawless setting d.items) :
    ∃ table, Table.ofDocument setting d = (d.warnings, .ok table) ∧
      List.Forall₂ (Describes setting) table d.items := by
  obtain ⟨table, htable, hwalk⟩ := (Built.nil setting).addEntries_append d h []
  rw [List.append_nil] at hwalk
  refine ⟨table, ?_, htable.describes⟩
  rw [Table.ofDocument, hwalk]
  simp [addEntries]

/-- It fails at an item that has flawless ones before it. -/
theorem FailsBehind.exists_flaw {front d : Document} (h : FailsBehind setting front d e) :
    ∃ before i after, d.items = before ++ i :: after ∧ Flawless setting before ∧ Flaw setting before i e := by
  cases h with
  | @intro key v back done item rest e kind items flawless flaw =>
      refine ⟨_, _, rest.map (Item.mk key) ++ Document.items back, ?_, flawless, flaw⟩
      rw [Document.items_append, Document.items_cons, if_pos kind, items, List.map_append, List.map_cons]
      simp only [List.append_assoc, List.cons_append]

/-- A document that fails is walked through as far as the entry in which it fails. -/
theorem FailsBehind.ofDocument_eq {front d : Document} (h : FailsBehind setting front d e)
    (ids : ∀ i ∈ d.items, MayBeId (part? i.value nameKey)) :
    Table.ofDocument setting d = (front.warnings, .error e) := by
  cases h with
  | @intro key v back done item rest e kind items flawless flaw =>
      obtain ⟨type, htype⟩ := exists_type_of_isKind kind
      have hmem : (⟨key, item⟩ : Item) ∈ Document.items (front ++ (key, v) :: back) := by
        simp [Document.items_append, Document.items_cons, kind, items]
      obtain ⟨table, htable, hwalk⟩ :=
        (Built.nil setting).addEntries_append front flawless.left ((key, v) :: back)
      obtain ⟨table', hfold, htable'⟩ := htable.foldlM htype flawless
      have hstep := flaw.addItem_eq htable' (ids _ hmem) type
      have hentry : (entryItems v).foldlM (addItem setting key type) table = .error e := by
        rw [items, List.foldlM_append, hfold]
        change (item :: rest).foldlM (addItem setting key type) table' = .error e
        rw [List.foldlM_cons, hstep]
        rfl
      rw [Table.ofDocument, hwalk, addEntries, htype]
      dsimp only
      rw [hentry, List.append_nil]

/-- A document has a table, or it fails. -/
theorem ofDocument_cases (setting : Setting) {d : Document} (ids : ∀ i ∈ d.items, MayBeId (part? i.value nameKey)) :
    (Flawless setting d.items ∧ ∃ table, Table.ofDocument setting d = (d.warnings, .ok table) ∧
      List.Forall₂ (Describes setting) table d.items) ∨
    ∃ front e, FailsBehind setting front d e ∧ Table.ofDocument setting d = (front.warnings, .error e) := by
  rcases Flawless.or_fails [] .nil d with h | ⟨front, e, h⟩
  · exact .inl ⟨h, h.ofDocument_eq⟩
  · exact .inr ⟨front, e, h, h.ofDocument_eq ids⟩

/-- Only entries of other kinds are worth a warning. -/
theorem addEntries_quiet {d : Document} (h : ∀ entry ∈ d, isKind entry.1 = true) (table : Table) :
    (addEntries setting table d).1 = [] := by
  induction d generalizing table with
  | nil => rfl
  | cons entry d ih =>
      obtain ⟨key, v⟩ := entry
      obtain ⟨hkind, hrest⟩ := List.forall_mem_cons.mp h
      obtain ⟨type, htype⟩ := exists_type_of_isKind hkind
      rw [addEntries, htype]
      dsimp only
      cases (entryItems v).foldlM (addItem setting key type) table with
      | error e => rfl
      | ok table' => exact ih hrest table'

theorem exists_of_compileBody {body : Value} (h : compileBody setting body = .error e) : ∃ c, e = .compile c := by
  unfold compileBody at h
  dsimp only at h
  split at h
  case h_1 => cases h
  case h_2 c _ => exact ⟨c, (Except.error.inj h).symm⟩

/-- **A table of all or nothing.** A document whose items have texts for ids, if any, has a table if and only if
every item of a statement kind has an id that is not empty, no two of them have the same, and every body
compiles. The table then consists of what the items describe, in order. Otherwise the error is that of the first
item with a flaw: that it has no id, that an earlier item has the same, or that its body does not compile. Each
entry of another kind in front of it has been warned about, and nothing else. Without these entries the outcome
is the same. -/
theorem all_or_nothing (setting : Setting) (d : Document)
    (ids : ∀ i ∈ d.items, part? i.value nameKey = none ∨ part? i.value nameKey = some .null ∨
      ∃ s, part? i.value nameKey = some (.str s)) :
    ((∃ table, (Table.ofDocument setting d).2 = .ok table) ↔ Flawless setting d.items) ∧
    (∀ table, (Table.ofDocument setting d).2 = .ok table →
      List.Forall₂ (Describes setting) table d.items ∧ (Table.ofDocument setting d).1 = d.warnings) ∧
    (∀ e, (Table.ofDocument setting d).2 = .error e ↔ ∃ front, FailsBehind setting front d e) ∧
    (∀ front e, FailsBehind setting front d e → (Table.ofDocument setting d).1 = front.warnings ∧
      ((∃ key, e = .unnamed key) ∨ (∃ id, e = .duplicate id) ∨ ∃ c, e = .compile c)) ∧
    Table.ofDocument setting (d.filter fun entry => isKind entry.1) = ([], (Table.ofDocument setting d).2) := by
  have mayBe : ∀ i ∈ d.items, MayBeId (part? i.value nameKey) := by
    intro i hi
    rcases ids i hi with h | h | ⟨s, h⟩
    · rw [h]
      exact .absent
    · rw [h]
      exact .null
    · rw [h]
      exact .text s
  have hfilter : (Table.ofDocument setting (d.filter fun entry => isKind entry.1)).2 =
      (Table.ofDocument setting d).2 := by
    simp only [isKind_eq]
    exact (addEntries_filter [] d).symm
  refine ⟨⟨?_, ?_⟩, ?_, fun e => ⟨?_, ?_⟩, fun front e h => ⟨by rw [h.ofDocument_eq mayBe], ?_⟩, ?_⟩
  · rintro ⟨table, htable⟩
    rcases ofDocument_cases setting mayBe with ⟨h, -⟩ | ⟨front, e, -, hd⟩
    · exact h
    · rw [hd] at htable
      cases htable
  · intro h
    obtain ⟨table, hd, -⟩ := h.ofDocument_eq
    exact ⟨table, by rw [hd]⟩
  · intro table htable
    rcases ofDocument_cases setting mayBe with ⟨-, table', hd, hdescribes⟩ | ⟨front, e, -, hd⟩
    · rw [hd] at htable ⊢
      cases htable
      exact ⟨hdescribes, rfl⟩
    · rw [hd] at htable
      cases htable
  · intro he
    rcases ofDocument_cases setting mayBe with ⟨-, table, hd, -⟩ | ⟨front, e', h, hd⟩
    · rw [hd] at he
      cases he
    · rw [hd] at he
      cases he
      exact ⟨front, h⟩
  · rintro ⟨front, h⟩
    rw [h.ofDocument_eq mayBe]
  · obtain ⟨before, i, after, hitems, -, hflaw⟩ := h.exists_flaw
    cases hflaw with
    | unnamed => exact .inl ⟨_, rfl⟩
    | unusable unusable =>
        have hi : i ∈ d.items := hitems ▸ List.mem_append_right before List.mem_cons_self
        exact absurd unusable (Item.id_ne_collection (ids i hi) _)
    | duplicate => exact .inr (.inl ⟨_, rfl⟩)
    | uncompiled _ _ failed => exact .inr (.inr (exists_of_compileBody failed))
  · refine Prod.ext (addEntries_quiet (fun entry hentry => ?_) []) hfilter
    exact (List.mem_filter.mp hentry).2

/-- A document with an id that occurs under two spellings of different kinds. -/
def repeatedId : Document :=
  [("select", .list [.dict [(.str nameKey, .str "a")]]), ("note", .null),
    ("Raw", .dict [(.str nameKey, .str "a"), (.str textKey, .str "\x7b\x7b")]), ("more", .null)]

theorem all_or_nothing_of_repeatedId : Table.ofDocument { context := [], strict := false } repeatedId =
    ([.unknownType "note"], .error (.duplicate "a")) := by
  have hitems : repeatedId.items = [⟨"select", .dict [(.str nameKey, .str "a")]⟩,
      ⟨"Raw", .dict [(.str nameKey, .str "a"), (.str textKey, .str "\x7b\x7b")]⟩] := by cbv
  have hid : ∀ i ∈ repeatedId.items, part? i.value nameKey = some (.str "a") := by
    rw [hitems]
    simp only [List.forall_mem_cons]
    exact ⟨by cbv, by cbv, by simp⟩
  obtain ⟨-, -, herror, hwarnings, -⟩ := all_or_nothing { context := [], strict := false } repeatedId
    fun i hi => .inr (.inr ⟨"a", hid i hi⟩)
  have hfails : FailsBehind { context := [], strict := false } (repeatedId.take 2) repeatedId (.duplicate "a") := by
    have hfront : Document.items (repeatedId.take 2) = [⟨"select", .dict [(.str nameKey, .str "a")]⟩] := by cbv
    have hfirst : Item.id ⟨"select", .dict [(.str nameKey, .str "a")]⟩ = .text "a" := by cbv
    refine @FailsBehind.intro _ (repeatedId.take 2) "Raw" _ [("more", .null)] [] _ [] _ (by cbv) rfl ?_ ?_
    · rw [hfront]
      have compiles : (compileBody { context := [], strict := false }
          (Item.body ⟨"select", .dict [(.str nameKey, .str "a")]⟩)).toOption.isSome = true := by cbv
      obtain ⟨t, ht⟩ := Option.isSome_iff_exists.mp compiles
      exact Flawless.nil.concat hfirst (by simp) (toOption_eq_some_iff.mp ht)
    · rw [hfront]
      exact .duplicate (by cbv) ⟨_, List.mem_cons_self, hfirst⟩
  exact Prod.ext (hwarnings _ _ hfails).1 ((herror _).mpr ⟨_, hfails⟩)

end SqlMapper.Mapper
