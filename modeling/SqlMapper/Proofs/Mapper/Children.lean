import SqlMapper.Proofs.Mapper.Statements
/-!
# SqlMapper.Proofs.Mapper.Children

No child is lost when an element is folded (`folding_keeps_children`). Whether a further child joins a list or begins
one is decided by what is stored under its name already. This is sound because no child is itself folded into a list
(`elementValue_ne_list`): a list always means several children, in whatever order the names come (`gathered_eq`).
What is left is what the entries of the children, the attributes and the text do to each other, and this is a matter
of their names only (`keeps_mappingOf`).
-/

namespace SqlMapper.Mapper

open Xml (Node Element)

/-- A document holds what an element does. Its text, which has a name of its own, may hide what is called so. -/
structure Document.Keeps (d : Document) (e : Element) : Prop where
  /-- There is one entry of a name. -/
  nodup : (d.map (·.1)).Nodup
  /-- The only child of its name stands for itself. -/
  single : ∀ t, t ≠ textKey → ∀ c, labelled (Node.elements e.content) t = [c] → d.get? t = some (elementValue c)
  /-- Several children of one name stand in a list, each of them, in the order of the document. -/
  several : ∀ t, t ≠ textKey → 2 ≤ (labelled (Node.elements e.content) t).length →
    d.get? t = some (.list ((labelled (Node.elements e.content) t).map elementValue))
  /-- An entry tells which of the two it is: its items are the children of that name. -/
  items : ∀ c ∈ Node.elements e.content, c.label ≠ textKey → ∃ v, d.get? c.label = some v ∧
    entryItems v = (labelled (Node.elements e.content) c.label).map elementValue
  /-- An attribute that no child hides is there. -/
  own : ∀ a ∈ e.attributes, a.1.text ≠ textKey → (∀ c ∈ Node.elements e.content, c.label ≠ a.1.text) →
    d.get? a.1.text = some (.str a.2)
  /-- The text is there, unless it is empty. -/
  text : elementText e.content ≠ "" → d.get? textKey = some (.str (elementText e.content))
  /-- There is nothing else. -/
  only : ∀ key, key ≠ textKey → (∀ c ∈ Node.elements e.content, c.label ≠ key) →
    (∀ a ∈ e.attributes, a.1.text ≠ key) → d.get? key = none

variable {e : Element}

/-- What an element is folded into, if it is no mere text, holds what the element does. -/
theorem keeps_mappingOf (hapart : Xml.WrittenApart e.attributes) :
    (mappingOf e.attributes (gathered (Node.elements e.content)) (elementText e.content)).Keeps e := by
  have hkeys : ((gathered (Node.elements e.content)).map (·.1)).Nodup := by
    rw [gathered_keys]
    exact labels_nodup _
  have child : ∀ t, t ≠ textKey → labelled (Node.elements e.content) t ≠ [] →
      (mappingOf e.attributes (gathered (Node.elements e.content)) (elementText e.content)).get? t =
        some (groupValue ((labelled (Node.elements e.content) t).map elementValue)) := by
    intro t ht hne
    refine get?_mappingOf_of_child ht hkeys ?_ _
    rw [get?_gathered, if_pos (not_not.mp (mt labelled_eq_nil_iff.mpr hne))]
  have noChild : ∀ key, (∀ c ∈ Node.elements e.content, c.label ≠ key) →
      (gathered (Node.elements e.content)).get? key = none := by
    intro key hkey
    rw [get?_gathered, if_neg]
    rw [mem_labels]
    rintro ⟨c, hc, hlabel⟩
    exact hkey c hc hlabel
  constructor
  case nodup => exact nodup_mappingOf _ _ _
  case single =>
      intro t ht c hc
      rw [child t ht (by simp [hc]), hc]
      rfl
  case several =>
      intro t ht hlength
      rw [child t ht (List.ne_nil_of_length_pos (by omega))]
      match labelled (Node.elements e.content) t, hlength with
      | _ :: _ :: _, _ => rfl
  case items =>
      intro c hc hlabel
      exact ⟨_, child c.label hlabel (labelled_ne_nil (mem_labels.mpr ⟨c, hc, rfl⟩)),
        entryItems_groupValue (values_ne_list _)⟩
  case own =>
      intro a ha hname hhidden
      exact get?_mappingOf_of_attribute hapart ha hname hkeys (noChild _ hhidden) _
  case text => exact get?_textKey_of_text
  case only =>
      intro key hkey hchildren hattributes
      exact get?_mappingOf_eq_none hkey hkeys (noChild key hchildren) hattributes _

/-- **Every child is kept.** In an element tree, whose elements each have attributes of different names, every element
is a text if and only if it has neither attributes nor children. Any other is a mapping: under the name of a child
there is the value of the child, if it is the only one of that name, and else the list of the values of all children
of that name in their order; and under the name of an attribute that no child has there is its value. No element
is a list. Every document that is read is such a tree. -/
theorem folding_keeps_children :
    (∀ root : Element, root.IsTree → ∀ e, root.Contains e →
      ((∃ s, elementValue e = .str s) ↔ e.attributes = [] ∧ Node.elements e.content = []) ∧
      (¬ (e.attributes = [] ∧ Node.elements e.content = []) →
        ∃ d : Document, elementValue e = d.value ∧ d.Keeps e) ∧
      ∀ vs, elementValue e ≠ .list vs) ∧
    ∀ bytes root, Element.read? bytes = some root → root.IsTree := by
  refine ⟨fun root htree e he => ⟨?_, ?_, elementValue_ne_list e⟩, fun _ _ => Element.isTree_of_read?⟩
  · rw [elementValue_eq]
    split
    case isTrue hplain => exact ⟨fun _ => hplain, fun _ => ⟨_, rfl⟩⟩
    case isFalse hmore =>
        refine ⟨?_, fun hplain => absurd hplain hmore⟩
        rintro ⟨s, hs⟩
        cases hs
  · intro hmore
    exact ⟨_, by rw [elementValue_eq, if_neg hmore], keeps_mappingOf (htree e he)⟩

/-- A document with children of one name around one of another, an attribute that is hidden and one that is not, and
text in between. -/
def mixed : List UInt8 :=
  "<m><e a='1' t='2'><t>x</t><u/>y<t k='v'/></e></m>".toList.map fun c => c.toNat.toUInt8

/-- Its element. -/
def mixedElement : Element where
  name := ⟨"", "e"⟩
  attributes := [(⟨"", "a"⟩, "1"), (⟨"", "t"⟩, "2")]
  content := [.element ⟨"", "t"⟩ [] [.text "x"], .element ⟨"", "u"⟩ [] [], .text "y",
    .element ⟨"", "t"⟩ [(⟨"", "k"⟩, "v")] []]

/-- Its root. -/
def mixedRoot : Element where
  name := ⟨"", "m"⟩
  attributes := []
  content := [.element mixedElement.name mixedElement.attributes mixedElement.content]

set_option maxRecDepth 2000 in
theorem read?_mixed : Element.read? mixed = some mixedRoot := by cbv

theorem values_mixed : (labelled (Node.elements mixedElement.content) "t").map elementValue =
    [.str "x", .dict [(.str "k", .str "v")]] := by cbv

theorem folding_keeps_children_of_mixed : Element.read? mixed = some mixedRoot ∧ mixedRoot.Contains mixedElement ∧
    ∃ d : Document, elementValue mixedElement = d.value ∧
      d.get? "t" = some (.list [.str "x", .dict [(.str "k", .str "v")]]) ∧ d.get? "u" = some (.str "") ∧
      d.get? "a" = some (.str "1") ∧ d.get? "k" = none := by
  have hinside : mixedRoot.Contains mixedElement := .child .root List.mem_cons_self
  have hvalue : elementValue ⟨⟨"", "u"⟩, [], []⟩ = .str "" := by cbv
  obtain ⟨folds, trees⟩ := folding_keeps_children
  obtain ⟨-, hmapping, -⟩ := folds mixedRoot (trees mixed mixedRoot read?_mixed) mixedElement hinside
  obtain ⟨d, hd, keeps⟩ := hmapping (by simp [mixedElement])
  refine ⟨read?_mixed, hinside, d, hd, ?_, ?_, ?_, ?_⟩
  · rw [keeps.several "t" (by decide) (by decide), values_mixed]
  · rw [keeps.single "u" (by decide) ⟨⟨"", "u"⟩, [], []⟩ (by cbv), hvalue]
  · exact keeps.own (⟨"", "a"⟩, "1") (by decide) (by decide) (by decide)
  · exact keeps.only "k" (by decide) (by decide) (by decide)

end SqlMapper.Mapper
