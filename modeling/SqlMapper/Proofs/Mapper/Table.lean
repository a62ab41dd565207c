import Mathlib
import SqlMapper.Proofs.Mapper.Statements
import SqlMapper.Proofs.Value.Outcome
/-!
# SqlMapper.Proofs.Mapper.Table

No statement is lost or invented on the way from an XML document to a table (`table_of_document`). The document
is first folded into groups of elements, by names as they are written, and these are then walked through by
kinds, in any case. The two fit because only the entries of statement kinds matter (`table_ofElement`), and
neither attributes nor text of the root disturb these.
-/

namespace SqlMapper.Mapper

open Xml (Node Element)

variable {setting : Setting}

/-! ### Documents -/

/-- The elements of a document that stand for statements. -/
def statementElements (root : Element) : List Element :=
  (Node.elements root.content).filter fun e => namesKind e.label

/-- What is asked of a document so that it has a table: names in ASCII, no attribute of the root that is taken
for statements, and statements with ids of their own. -/
structure Regular (setting : Setting) (root : Element) : Prop where
  ascii_children : ∀ e ∈ Node.elements root.content, Text.IsAscii e.label
  ascii_attributes : ∀ a ∈ root.attributes, Text.IsAscii a.1.label
  attributes : ∀ a ∈ root.attributes, a.1.space = "" → namesKind a.1.label = false
  statements : ∀ e ∈ statementElements root, IsStatement setting e
  distinct : (statementElements root).Pairwise fun e f => e.attribute? nameKey ≠ f.attribute? nameKey

/-- The entries of a document are those that its root is folded into. -/
theorem filter_ofElement {p : String → Bool} {root : Element}
    (hattributes : ∀ a ∈ root.attributes, p a.1.text = false) (htext : p textKey = false) :
    (Document.ofElement root).filter (fun e => p e.1) =
      gathered ((Node.elements root.content).filter fun e => p e.label) := by
  have hchildren : ((children [] root.content).map (·.1)).Nodup := by
    rw [children_keys]
    exact labels_nodup _
  rw [← filter_gathered, ← children_nil, ofElement_eq]
  split
  case isTrue hempty =>
      -- a root that is a mere text has no children either
      rw [Bool.and_eq_true, List.isEmpty_iff, List.isEmpty_iff] at hempty
      rw [hempty.2]
  case isFalse => exact filter_mappingOf hattributes htext hchildren _

/-- A name in a namespace is that of no kind. -/
theorem statementType?_brace (s : String) : statementType? ("\x7b" ++ s) = none := by
  have hupper : Text.upper ("\x7b" ++ s).toList = '\x7b' :: Text.upper s.toList := by
    rw [String.toList_append]
    rfl
  have hname : ∀ t, QueryType.ofName? (String.ofList (Text.upper ("\x7b" ++ s).toList)) ≠ some t := by
    intro t ht
    rw [ofName?_eq_some_iff, hupper, ← String.toList_inj, String.toList_ofList] at ht
    cases t <;> cases ht
  unfold statementType?
  rw [Option.eq_none_iff_forall_ne_some.mpr hname]

/-- Only elements of statement kinds matter to the table. -/
theorem table_ofElement {root : Element} (hchildren : ∀ e ∈ Node.elements root.content, Text.IsAscii e.label)
    (hattributes : ∀ a ∈ root.attributes, statementType? a.1.text = none) :
    (Table.ofDocument setting (Document.ofElement root)).2 =
      (addEntries setting [] (gathered (statementElements root))).2 := by
  have kinds : (Node.elements root.content).filter (fun e => (statementType? e.label).isSome) =
      statementElements root :=
    List.filter_congr fun e he => statementType?_isSome (hchildren e he)
  have hfilter := filter_ofElement (p := fun k => (statementType? k).isSome)
    (fun a ha => by rw [hattributes a ha]; rfl) (by cbv)
  rw [Table.ofDocument, addEntries_filter, hfilter, kinds]

/-- Is a node an element that stands for a statement? -/
def isStatementNode : Node → Bool
  | .element name _ _ => namesKind name.label
  | _ => false

/-- A document as it would be without all that makes no difference: the attributes and the text of the root,
elements of other names, and asides anywhere. -/
def reduced (root : Element) : Element where
  name := root.name
  attributes := []
  content := bare (root.content.filter isStatementNode)

theorem elements_filter (content : List Node) : Node.elements (content.filter isStatementNode) =
    (Node.elements content).filter fun e => namesKind e.label := by
  induction content with
  | nil => rfl
  | cons n rest ih =>
      cases n with
      | element name attributes content =>
          rw [List.filter_cons, Node.elements, List.filter_cons]
          unfold isStatementNode Element.label at *
          dsimp only
          split
          · rw [Node.elements, ih]
          · exact ih
      | _ => simpa [isStatementNode, Node.elements] using ih

theorem statementElements_reduced (root : Element) :
    statementElements (reduced root) = (statementElements root).map bareElement := by
  have again : (statementElements root).filter ((fun e => namesKind e.label) ∘ bareElement) =
      statementElements root :=
    List.filter_eq_self.mpr fun e he => (List.mem_filter.mp he).2
  rw [statementElements, reduced, elements_bare, elements_filter, List.filter_map]
  exact congrArg _ again

theorem table_reduced {root : Element} (hchildren : ∀ e ∈ Node.elements root.content, Text.IsAscii e.label) :
    (Table.ofDocument setting (Document.ofElement (reduced root))).2 =
      (addEntries setting [] (gathered (statementElements root))).2 := by
  have hreduced : ∀ e ∈ Node.elements (reduced root).content, Text.IsAscii e.label := by
    intro e he
    rw [reduced, elements_bare, elements_filter] at he
    obtain ⟨f, hf, rfl⟩ := List.mem_map.mp he
    exact hchildren f (List.mem_filter.mp hf).1
  rw [table_ofElement hreduced (fun a ha => by cases ha), statementElements_reduced,
    gathered_map (f := bareElement) (fun _ => rfl) elementValue_bare]

theorem Regular.statementType?_attribute {root : Element} (h : Regular setting root) :
    ∀ a ∈ root.attributes, statementType? a.1.text = none := by
  intro a ha
  unfold Xml.Name.text
  split
  case isTrue hspace =>
      have hkind := h.attributes a ha (String.isEmpty_iff.mp hspace)
      rwa [← statementType?_isSome (h.ascii_attributes a ha), Option.isSome_eq_false_iff, Option.isNone_iff_eq_none]
        at hkind
  case isFalse =>
      rw [String.append_assoc, String.append_assoc]
      exact statementType?_brace _

theorem Regular.statementType?_isSome {root : Element} (h : Regular setting root) :
    ∀ e ∈ statementElements root, (statementType? e.label).isSome = true := by
  intro e he
  obtain ⟨hmem, hkind⟩ := List.mem_filter.mp he
  rwa [Mapper.statementType?_isSome (h.ascii_children e hmem)]

/-- **No statement is lost or invented.** A document that is read has a table, with exactly one statement for
each element of a statement kind: by local name, the names in the order in which they appear first, and in the
order of the document. A statement has the id of its element for its name, the kind of its tag, the text that
stands directly in it for its source, and says of its result what the element says. Nothing else in the document
makes a difference. -/
theorem table_of_document {setting : Setting} {bytes : List UInt8} {root : Element}
    (hread : Element.read? bytes = some root) (regular : Regular setting root) :
    ∃ d table, Document.read? bytes = some d ∧ (Table.ofDocument setting d).2 = .ok table ∧
      List.Forall₂ (StandsFor setting) table (byLabel (statementElements root)) ∧
      (byLabel (statementElements root)).Perm (statementElements root) ∧
      (Table.ofDocument setting (Document.ofElement (reduced root))).2 = .ok table := by
  obtain ⟨-, hdistinct⟩ := Element.distinct_of_read? hread
  have hperm := byLabel_perm (statementElements root)
  have hstatements : ∀ e ∈ byLabel (statementElements root), Text.IsAscii e.label ∧ namesKind e.label = true ∧
      IsStatement setting e ∧ Xml.Distinct e.attributes := by
    intro e he
    have he := hperm.mem_iff.mp he
    obtain ⟨hmem, hkind⟩ := List.mem_filter.mp he
    exact ⟨regular.ascii_children e hmem, hkind, regular.statements e he, hdistinct e hmem⟩
  have hids : (byLabel (statementElements root)).Pairwise fun e f =>
      e.attribute? nameKey ≠ f.attribute? nameKey :=
    hperm.symm.pairwise regular.distinct fun h => h.symm
  obtain ⟨table, hfold, htable⟩ := foldlM_addElement .nil hstatements hids
  have hgathered : (addEntries setting [] (gathered (statementElements root))).2 = .ok table := by
    rw [addEntries_gathered regular.statementType?_isSome, hfold]
  refine ⟨Document.ofElement root, table, ?_, ?_, htable, hperm, ?_⟩
  · rw [Document.read?, hread]
    rfl
  · rw [table_ofElement regular.ascii_children regular.statementType?_attribute, hgathered]
  · rw [table_reduced regular.ascii_children, hgathered]

/-- A document in which statements of one tag stand around one of another. -/
def interleaved : List UInt8 :=
  "<m><select id='a' single='True'>a<!---->b</select><RAW id='b'/><select id='c'/></m>".toList.map
    fun c => c.toNat.toUInt8

/-- Its statements. -/
def interleavedElements : List Element :=
  [⟨⟨"", "select"⟩, [(⟨"", "id"⟩, "a"), (⟨"", "single"⟩, "True")], [.text "a", .aside, .text "b"]⟩,
    ⟨⟨"", "RAW"⟩, [(⟨"", "id"⟩, "b")], []⟩, ⟨⟨"", "select"⟩, [(⟨"", "id"⟩, "c")], []⟩]

/-- Its root. -/
def interleavedRoot : Element where
  name := ⟨"", "m"⟩
  attributes := []
  content := interleavedElements.map fun e => .element e.name e.attributes e.content

set_option maxRecDepth 2000 in
theorem read?_interleaved : Element.read? interleaved = some interleavedRoot := by cbv

theorem statementElements_interleaved : statementElements interleavedRoot = interleavedElements := by cbv

theorem regular_interleaved : Regular { context := [], strict := false } interleavedRoot where
  ascii_children := by
    have hall : (Node.elements interleavedRoot.content).all (fun e => decide (Text.IsAscii e.label)) = true := by
      decide +kernel
    simpa using hall
  ascii_attributes := by decide
  attributes := by decide
  statements := by
    have compiles : ∀ s, (Template.compile s [] false).toOption.isSome = true →
        ∃ t, Template.compile s [] false = .ok t := by
      intro s h
      obtain ⟨t, ht⟩ := Option.isSome_iff_exists.mp h
      exact ⟨t, toOption_eq_some_iff.mp ht⟩
    intro e he
    rw [statementElements_interleaved] at he
    simp only [interleavedElements, List.mem_cons, List.not_mem_nil, or_false] at he
    rcases he with rfl | rfl | rfl
    · exact ⟨⟨"a", by decide, by decide⟩, by decide, by simp [Node.elements], compiles _ (by cbv)⟩
    · exact ⟨⟨"b", by decide, by decide⟩, by decide, by simp [Node.elements], compiles _ (by cbv)⟩
    · exact ⟨⟨"c", by decide, by decide⟩, by decide, by simp [Node.elements], compiles _ (by cbv)⟩
  distinct := by
    rw [statementElements_interleaved]
    decide

theorem table_of_interleaved : ∃ d table, Document.read? interleaved = some d ∧
    (Table.ofDocument { context := [], strict := false } d).2 = .ok table ∧
    List.Forall₂ (StandsFor { context := [], strict := false }) table (byLabel interleavedElements) := by
  obtain ⟨d, table, hread, htable, hstands, -, -⟩ := table_of_document read?_interleaved regular_interleaved
  rw [statementElements_interleaved] at hstands
  exact ⟨d, table, hread, htable, hstands⟩

example : (byLabel interleavedElements).map (·.attribute? nameKey) = [some "a", some "c", some "b"] := by decide

end SqlMapper.Mapper
