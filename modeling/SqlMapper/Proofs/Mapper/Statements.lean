import Mathlib
import SqlMapper.Mapper.Statement
import SqlMapper.Proofs.Mapper.Grouping
import SqlMapper.Proofs.Text.Letters
/-!
# SqlMapper.Proofs.Mapper.Statements

The statement of an element. What an element is folded into has its id, its text and what it says about its result
where they are looked for (`IsStatement.part?_attribute`, `IsStatement.part?_text`), so it adds one statement
to a table (`addElement_of_new`), and elements with ids of their own add one each (`foldlM_addElement`). The
entries of a document are groups of such elements (`addEntries_gathered`).
-/

namespace SqlMapper.Mapper

open Xml (Node Element)

/-! ### Elements that stand for statements -/

/-- Is a name that of a kind of statements, in any case? -/
def namesKind (label : String) : Bool := label.toUpper == "SELECT" || label.toUpper == "RAW"

/-- What is asked of an element so that it stands for a statement: it has an id, nothing else in it is taken for
its id, its text or what it says about its result, and the text is a template. -/
structure IsStatement (setting : Setting) (e : Element) : Prop where
  named : ∃ id, e.attribute? nameKey = some id ∧ id ≠ ""
  text : e.attribute? textKey = none
  children : ∀ c ∈ Node.elements e.content, c.label ≠ nameKey ∧ c.label ≠ singleKey ∧ c.label ≠ textKey
  compiles : ∃ t, Template.compile (elementText e.content) setting.context setting.strict = .ok t

/-- What a statement owes to its element. -/
structure StandsFor (setting : Setting) (s : Statement) (e : Element) : Prop where
  name : ∃ id, e.attribute? nameKey = some id ∧ s.name = .str id
  type : s.type.name = e.label.toUpper
  source : s.source = .str (elementText e.content)
  template : Template.compile (elementText e.content) setting.context setting.strict = .ok s.template
  single : s.single = true ↔
    ∃ v, e.attribute? singleKey = some v ∧ (Text.trim v.toList).map Char.toLower = "true".toList

/-! ### Kinds -/

theorem ofName?_eq_some_iff {s : String} {t : QueryType} : QueryType.ofName? s = some t ↔ t.name = s := by
  constructor
  · intro h
    simpa using List.find?_some h
  · rintro rfl
    exact QueryType.ofName?_name t

/-- A name stands for a kind if its capitals are the name of that kind. -/
theorem statementType?_eq_some {label : String} {t : QueryType} : statementType? label = some t ↔
    (t = .select ∨ t = .raw) ∧ t.name = String.ofList (Text.upper label.toList) := by
  unfold statementType?
  rw [← ofName?_eq_some_iff]
  constructor
  · intro h
    split at h
    case h_1 hname =>
        cases h
        exact ⟨Or.inl rfl, hname⟩
    case h_2 hname =>
        cases h
        exact ⟨Or.inr rfl, hname⟩
    case h_3 => cases h
  · rintro ⟨rfl | rfl, hname⟩
    · rw [hname]
    · rw [hname]

/-- A name in ASCII stands for a kind if it is the name of that kind, in any case. -/
theorem statementType?_eq_some_iff {label : String} (h : Text.IsAscii label) {t : QueryType} :
    statementType? label = some t ↔ (t = .select ∨ t = .raw) ∧ t.name = label.toUpper := by
  rw [statementType?_eq_some, Text.upper_of_ascii h]

/-- Is a key that of statements, in any case? -/
def isKind (key : String) : Bool :=
  let capitals := String.ofList (Text.upper key.toList)
  capitals == "SELECT" || capitals == "RAW"

theorem isKind_eq (key : String) : isKind key = (statementType? key).isSome := by
  rw [Bool.eq_iff_iff, Option.isSome_iff_exists]
  simp only [statementType?_eq_some, isKind, Bool.or_eq_true, beq_iff_eq]
  constructor
  · rintro (h | h)
    · exact ⟨.select, Or.inl rfl, h.symm⟩
    · exact ⟨.raw, Or.inr rfl, h.symm⟩
  · rintro ⟨t, rfl | rfl, h⟩
    · exact Or.inl h.symm
    · exact Or.inr h.symm

theorem statementType?_isSome {label : String} (h : Text.IsAscii label) :
    (statementType? label).isSome = namesKind label := by
  rw [← isKind_eq, isKind, Text.upper_of_ascii h, namesKind]

/-! ### Parts of an item -/

theorem part?_value (d : Document) (key : String) : part? d.value key = d.get? key := Value.lookup?_str key d

variable {setting : Setting} {e : Element} {table : Table}

/-- An element that has attributes is folded into a mapping. -/
theorem elementValue_of_attributes (h : e.attributes ≠ []) :
    elementValue e = (mappingOf e.attributes (children [] e.content) (elementText e.content)).value := by
  have hmore : ¬ (e.attributes = [] ∧ Node.elements e.content = []) := fun hplain => h hplain.1
  rw [elementValue_eq, if_neg hmore, children_nil]

theorem children_keys (content : List Node) :
    (children [] content).map (·.1) = labels (Node.elements content) := by
  rw [children_nil, gathered_keys]

theorem not_mem_children {key : String} (h : ∀ c ∈ Node.elements e.content, c.label ≠ key) :
    key ∉ (children [] e.content).map (·.1) := by
  rw [children_keys, mem_labels]
  rintro ⟨c, hc, hlabel⟩
  exact h c hc hlabel

/-- The entries of a document are those that its root is folded into; a mere text has none. -/
theorem ofElement_eq (root : Element) : Document.ofElement root =
    if root.attributes.isEmpty && (children [] root.content).isEmpty then []
    else mappingOf root.attributes (children [] root.content) (elementText root.content) := by
  unfold Document.ofElement elementValue
  rw [foldElement_eq]
  by_cases h : (root.attributes.isEmpty && (children [] root.content).isEmpty) = true
  · rw [if_pos h, if_pos h]
  · rw [if_neg h, if_neg h]
    dsimp only [Document.value]
    rw [List.map_map]
    exact List.map_id _

/-- What is asked for in an element are its children of that name, or else its attribute. -/
theorem part?_elementValue (hdistinct : Xml.Distinct e.attributes) {key : String}
    (hkey : key.toList.head? ≠ some '\x7b') (htext : key ≠ textKey) : part? (elementValue e) key =
      ((gathered (Node.elements e.content)).get? key).or ((e.attribute? key).map .str) := by
  rw [elementValue_eq]
  split
  case isTrue hplain =>
      rw [hplain.2, Element.attribute?, hplain.1]
      rfl
  case isFalse =>
      rw [part?_value]
      refine get?_mappingOf hkey htext hdistinct ?_ _
      rw [gathered_keys]
      exact labels_nodup _

/-- The id and what is said about the result are read off the attributes. -/
theorem IsStatement.part?_attribute (h : IsStatement setting e) (hdistinct : Xml.Distinct e.attributes)
    {key : String} (hkey : key = nameKey ∨ key = singleKey) :
    part? (elementValue e) key = (e.attribute? key).map .str := by
  have hnew : key ∉ labels (Node.elements e.content) := by
    rw [mem_labels]
    rintro ⟨c, hc, hlabel⟩
    obtain ⟨hname, hsingle, -⟩ := h.children c hc
    rcases hkey with rfl | rfl
    · exact hname hlabel
    · exact hsingle hlabel
  rw [part?_elementValue hdistinct, get?_gathered, if_neg hnew, Option.none_or]
  · rcases hkey with rfl | rfl <;> decide
  · rcases hkey with rfl | rfl <;> decide

theorem IsStatement.attributes_ne_nil (h : IsStatement setting e) : e.attributes ≠ [] := by
  intro hnil
  obtain ⟨id, hid, -⟩ := h.named
  rw [Element.attribute?, hnil] at hid
  cases hid

/-- A body that is empty is not stored, but an empty text is what it is taken for then. -/
theorem IsStatement.part?_text (h : IsStatement setting e) (hdistinct : Xml.Distinct e.attributes) :
    (part? (elementValue e) textKey).getD (.str "") = .str (elementText e.content) := by
  rw [elementValue_of_attributes h.attributes_ne_nil, part?_value,
    get?_textKey_mappingOf hdistinct h.text (not_mem_children fun c hc => (h.children c hc).2.2)]
  split
  case isTrue hempty => simp [String.isEmpty_iff.mp hempty]
  case isFalse => rfl

theorem saysTrue_str (v : String) :
    saysTrue (.str v) = true ↔ (Text.trim v.toList).map Char.toLower = "true".toList := by
  rw [← Text.lower_eq_true_iff]
  exact beq_iff_eq

/-! ### One statement -/

/-- Add the statement of an element to a table. -/
def addElement (setting : Setting) (table : Table) (e : Element) : Except DocumentError Table :=
  match statementType? e.label with
  | some type => addItem setting e.label type table (elementValue e)
  | none => .ok table

/-- An item adds its statement, if its name is new and its body compiles. -/
theorem addItem_of_new {key : String} {type : QueryType} {item name : Value} {t : Template}
    (hname : itemName key item = .ok name) (hnew : table.get? name = none)
    (hbody : compileBody setting ((part? item textKey).getD (.str "")) = .ok t) :
    addItem setting key type table item = .ok (table ++ [⟨name, type, (part? item textKey).getD (.str ""), t,
      ((part? item singleKey).map saysTrue).getD false⟩]) := by
  unfold addItem
  simp only [hname, hnew, hbody, bind, Except.bind]
  rfl

/-- An element whose id is new adds the statement that it stands for. -/
theorem addElement_of_new (hascii : Text.IsAscii e.label) (hkind : namesKind e.label = true)
    (h : IsStatement setting e) (hdistinct : Xml.Distinct e.attributes)
    (hnew : ∀ s ∈ table, ∃ id, s.name = .str id ∧ e.attribute? nameKey ≠ some id) :
    ∃ s, addElement setting table e = .ok (table ++ [s]) ∧ StandsFor setting s e := by
  obtain ⟨id, hid, hne⟩ := h.named
  obtain ⟨t, ht⟩ := h.compiles
  rw [← statementType?_isSome hascii, Option.isSome_iff_exists] at hkind
  obtain ⟨type, htype⟩ := hkind
  have hname : itemName e.label (elementValue e) = .ok (.str id) := by
    unfold itemName
    rw [h.part?_attribute hdistinct (Or.inl rfl), hid]
    have htruth : (Value.str id).truth = .ok true := by simp [Value.truth, hne]
    simp only [Option.map_some, htruth]
    rfl
  have hnone : table.get? (.str id) = none := by
    rw [Table.get?, List.find?_eq_none]
    intro s hs
    obtain ⟨id', hid', hne'⟩ := hnew s hs
    rw [hid', Value.sameKey_str, beq_iff_eq]
    rintro rfl
    exact hne' hid
  have hbody : compileBody setting ((part? (elementValue e) textKey).getD (.str "")) = .ok t := by
    rw [h.part?_text hdistinct]
    simp only [compileBody, Value.text?, ht]
  have hsingle : ((part? (elementValue e) singleKey).map saysTrue).getD false = true ↔
      ∃ v, e.attribute? singleKey = some v ∧ (Text.trim v.toList).map Char.toLower = "true".toList := by
    rw [h.part?_attribute hdistinct (Or.inr rfl)]
    cases e.attribute? singleKey with
    | none => simp
    | some v => simp [saysTrue_str]
  refine ⟨⟨.str id, type, (part? (elementValue e) textKey).getD (.str ""), t,
    ((part? (elementValue e) singleKey).map saysTrue).getD false⟩, ?_, ⟨id, hid, rfl⟩, ?_,
    h.part?_text hdistinct, ht, hsingle⟩
  · unfold addElement
    rw [htype]
    exact addItem_of_new hname hnone hbody
  · exact ((statementType?_eq_some_iff hascii).mp htype).2

/-! ### All statements -/

theorem exists_of_mem_standsFor {s : Statement} {es : List Element}
    (h : List.Forall₂ (StandsFor setting) table es) (hs : s ∈ table) : ∃ e ∈ es, StandsFor setting s e := by
  induction h with
  | nil => cases hs
  | cons hhead _ ih =>
      rcases List.mem_cons.mp hs with rfl | hs
      · exact ⟨_, List.mem_cons_self, hhead⟩
      · obtain ⟨e, he, hse⟩ := ih hs
        exact ⟨e, List.mem_cons_of_mem _ he, hse⟩

/-- Elements with ids of their own add one statement each, in order. The table so far stands for the elements
before them. -/
theorem foldlM_addElement {before es : List Element} (hbefore : List.Forall₂ (StandsFor setting) table before)
    (hes : ∀ e ∈ es, Text.IsAscii e.label ∧ namesKind e.label = true ∧ IsStatement setting e ∧
      Xml.Distinct e.attributes)
    (hdistinct : (before ++ es).Pairwise fun e f => e.attribute? nameKey ≠ f.attribute? nameKey) :
    ∃ table', es.foldlM (addElement setting) table = .ok table' ∧
      List.Forall₂ (StandsFor setting) table' (before ++ es) := by
  induction es generalizing before table with
  | nil => exact ⟨table, rfl, by rwa [List.append_nil]⟩
  | cons e es ih =>
      obtain ⟨⟨hascii, hkind, hstatement, hown⟩, hes⟩ := List.forall_mem_cons.mp hes
      have hnew : ∀ s ∈ table, ∃ id, s.name = .str id ∧ e.attribute? nameKey ≠ some id := by
        intro s hs
        obtain ⟨f, hf, hsf⟩ := exists_of_mem_standsFor hbefore hs
        obtain ⟨id, hid, hname⟩ := hsf.name
        refine ⟨id, hname, fun heq => ?_⟩
        exact (List.pairwise_append.mp hdistinct).2.2 f hf e List.mem_cons_self (hid.trans heq.symm)
      obtain ⟨s, hadd, hs⟩ := addElement_of_new hascii hkind hstatement hown hnew
      have hbefore' : List.Forall₂ (StandsFor setting) (table ++ [s]) (before ++ [e]) :=
        List.rel_append hbefore (.cons hs .nil)
      obtain ⟨table', hfold, htable'⟩ := ih hbefore' hes (by rwa [List.append_assoc, List.singleton_append])
      rw [List.append_assoc, List.singleton_append] at htable'
      refine ⟨table', ?_, htable'⟩
      rw [List.foldlM_cons, hadd]
      exact hfold

/-- Entries of other kinds do not matter to the table. -/
theorem addEntries_filter (table : Table) (d : Document) : (addEntries setting table d).2 =
    (addEntries setting table (d.filter fun e => (statementType? e.1).isSome)).2 := by
  induction d generalizing table with
  | nil => rfl
  | cons entry d ih =>
      obtain ⟨key, v⟩ := entry
      cases htype : statementType? key with
      | none =>
          rw [List.filter_cons_of_neg (by simp [htype]), ← ih table, addEntries, htype]
      | some type =>
          rw [List.filter_cons_of_pos (by simp [htype]), addEntries, addEntries, htype]
          dsimp only
          cases (entryItems v).foldlM (addItem setting key type) table with
          | error err => rfl
          | ok table' => exact ih table'

theorem entryItems_groupValue {vs : List Value} (hvs : ∀ v ∈ vs, ∀ ws, v ≠ .list ws) :
    entryItems (groupValue vs) = vs := by
  match vs with
  | [] => rfl
  | [v] =>
      have hv := hvs v (by simp)
      cases v with
      | list ws => exact absurd rfl (hv ws)
      | _ => rfl
  | v :: w :: vs => rfl

/-- The items of a group are the elements of its name. -/
theorem foldlM_addItem {label : String} {type : QueryType} (htype : statementType? label = some type)
    {es : List Element} (hes : ∀ e ∈ es, e.label = label) (table : Table) :
    (es.map elementValue).foldlM (addItem setting label type) table = es.foldlM (addElement setting) table := by
  induction es generalizing table with
  | nil => rfl
  | cons e es ih =>
      obtain ⟨rfl, hes⟩ := List.forall_mem_cons.mp hes
      have hhead : addElement setting table e = addItem setting e.label type table (elementValue e) := by
        unfold addElement
        rw [htype]
      rw [List.map_cons, List.foldlM_cons, List.foldlM_cons, hhead]
      cases addItem setting e.label type table (elementValue e) with
      | error err => rfl
      | ok table' => exact ih hes table'

/-- The table of gathered elements is made of theirs, one after the other. -/
theorem addEntries_gathered {es : List Element} (hes : ∀ e ∈ es, (statementType? e.label).isSome = true)
    (table : Table) :
    (addEntries setting table (gathered es)).2 = (byLabel es).foldlM (addElement setting) table := by
  have all : ∀ ls : List String, (∀ l ∈ ls, l ∈ labels es) → ∀ table : Table,
      (addEntries setting table (ls.map fun l => (l, groupValue ((labelled es l).map elementValue)))).2 =
        (ls.flatMap (labelled es)).foldlM (addElement setting) table := by
    intro ls
    induction ls with
    | nil => exact fun _ table => rfl
    | cons l ls ih =>
        intro hls table
        obtain ⟨hl, hrest⟩ := List.forall_mem_cons.mp hls
        obtain ⟨e, he, rfl⟩ := mem_labels.mp hl
        obtain ⟨type, htype⟩ := Option.isSome_iff_exists.mp (hes e he)
        have items : entryItems (groupValue ((labelled es e.label).map elementValue)) =
            (labelled es e.label).map elementValue := entryItems_groupValue (values_ne_list _)
        have hlabel : ∀ e' ∈ labelled es e.label, e'.label = e.label := fun e' he' =>
          eq_of_beq (List.mem_filter.mp he').2
        rw [List.map_cons, List.flatMap_cons, List.foldlM_append, addEntries, htype]
        dsimp only
        rw [items, foldlM_addItem htype hlabel]
        cases (labelled es e.label).foldlM (addElement setting) table with
        | error err => rfl
        | ok table' => exact ih hrest table'
  rw [gathered_eq]
  exact all (labels es) (fun l hl => hl) table

end SqlMapper.Mapper
