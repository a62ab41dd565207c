import SqlMapper.Mapper.Loading
import SqlMapper.Proofs.Mapper.Documented
import SqlMapper.Proofs.Template.Verbatim
/-!
# SqlMapper.Proofs.Mapper.PlainBodies

Statements whose bodies hold no marks. Such a body always compiles, whatever it is compiled with, and is written as it
is (`compileBody_of_not_hasMark`), so no load fails because of it, and the statement that a table has of it is written
as it is, too (`Describes.verbatim`).

What a body is is said by its element: its text, if there is any, and then it is trimmed (`trim_of_body`). Every
element of a known kind is an item of its document (`mem_items_of_mem_elements`), so a table has a statement of it.
-/

namespace SqlMapper.Mapper

open Xml (Node Element)
open Template (hasMark preparedText)

variable {setting : Setting} {e root : Element} {b : String}

/-- An element as an item. -/
def Item.ofElement (e : Element) : Item := ⟨e.label, elementValue e⟩

/-! ### Bodies -/

theorem trim_elementText (content : List Node) :
    Text.trim (elementText content).toList = (elementText content).toList := by
  rw [elementText, String.toList_ofList]
  exact Text.trim_trim _

/-- The body of an element with a text is this text, unless nothing else is in the element: then it is no statement,
and its body is empty. -/
theorem body_of_text (htext : elementText e.content ≠ "") :
    (Item.ofElement e).body = .str (elementText e.content) ∨ (Item.ofElement e).body = .str "" := by
  unfold Item.body Item.ofElement
  rw [elementValue_eq]
  split
  · exact .inr rfl
  · refine .inl ?_
    rw [part?_value, get?_textKey_of_text htext]
    rfl

/-- The text of an element is a trimmed body. -/
theorem trim_of_body (htext : elementText e.content ≠ "") (hbody : (Item.ofElement e).body.text = .ok b) :
    Text.trim b.toList = b.toList := by
  rcases body_of_text htext with h | h
  · rw [h, Value.text_str] at hbody
    cases hbody
    exact trim_elementText e.content
  · rw [h, Value.text_str] at hbody
    cases hbody
    rfl

theorem text_of_text? {v : Value} {s : String} (h : v.text? = some s) : v.text = .ok s := by
  cases v with
  | str | sql => exact congrArg Except.ok (Option.some.inj h)
  | _ => cases h

/-- A body without marks compiles to a template that is written as it is. -/
theorem compileBody_of_not_hasMark {body : Value} (hbody : body.text = .ok b) (plain : hasMark b.toList = false)
    (setting : Setting) : ∃ t, compileBody setting body = .ok t ∧ t.Verbatim (preparedText b) := by
  have compiles := Template.compile_of_not_hasMark plain setting.context setting.strict
  have compilesText : ∃ t, compileText setting body b = .ok t ∧ t.Verbatim (preparedText b) := by
    unfold compileText
    split
    · exact compiles _
    · obtain ⟨t, ht, verbatim⟩ := compiles b
      rw [ht]
      exact ⟨t, rfl, verbatim⟩
  unfold compileBody
  split
  · next s hs =>
    rw [text_of_text? hs] at hbody
    cases hbody
    obtain ⟨t, ht, verbatim⟩ := compiles _
    rw [ht]
    exact ⟨t, rfl, verbatim⟩
  · obtain ⟨t, ht, verbatim⟩ := compilesText
    rw [hbody]
    dsimp only
    rw [ht]
    exact ⟨t, rfl, verbatim⟩

/-- So it is no flaw of its item. -/
theorem Flaw.not_compile_of_not_hasMark {before : List Item} {i : Item} {err : Template.CompileError}
    (hbody : i.body.text = .ok b) (plain : hasMark b.toList = false) : ¬ Flaw setting before i (.compile err) := by
  intro h
  cases h with
  | uncompiled _ _ failed =>
      obtain ⟨t, ht, -⟩ := compileBody_of_not_hasMark hbody plain setting
      rw [ht] at failed
      cases failed

/-- The statement of such an item is written as its body is. -/
theorem Describes.verbatim {s : Statement} {i : Item} (h : Describes setting s i) (hbody : s.source.text = .ok b)
    (plain : hasMark b.toList = false) : s.template.Verbatim (preparedText b) := by
  rw [h.source] at hbody
  obtain ⟨t, ht, verbatim⟩ := compileBody_of_not_hasMark hbody plain setting
  rw [h.template] at ht
  cases ht
  exact verbatim

/-! ### Elements and items -/

/-- Every element of a known kind is an item of its document. -/
theorem mem_items_of_mem_elements (he : e ∈ Node.elements root.content) (hkind : isKind e.label = true) :
    Item.ofElement e ∈ (Document.ofElement root).items := by
  let group := groupValue ((labelled (Node.elements root.content) e.label).map elementValue)
  have hkey : e.label ≠ textKey := by
    intro heq
    rw [heq] at hkind
    exact absurd hkind (by decide)
  have hlabel : e.label ∈ labels (Node.elements root.content) := mem_labels.mpr ⟨e, he, rfl⟩
  have hchild : (children [] root.content).get? e.label = some group := by
    rw [children_nil, get?_gathered, if_pos hlabel]
  have hnodup : ((children [] root.content).map (·.1)).Nodup := by
    rw [children_keys]
    exact labels_nodup _
  have hne : ¬ (root.attributes.isEmpty && (children [] root.content).isEmpty) = true := by
    rw [Bool.and_eq_true, List.isEmpty_iff, List.isEmpty_iff]
    rintro ⟨-, hnil⟩
    rw [hnil] at hchild
    cases hchild
  have hentry : (e.label, group) ∈ Document.ofElement root := by
    rw [ofElement_eq, if_neg hne]
    have hget : (mappingOf root.attributes (children [] root.content) (elementText root.content)).get? e.label =
        some group := get?_mappingOf_of_child hkey hnodup hchild _
    obtain ⟨before, behind, heq, -⟩ := List.lookup_eq_some_iff.mp hget
    rw [heq]
    exact List.mem_append_right before List.mem_cons_self
  have hitem : elementValue e ∈ entryItems group := by
    rw [entryItems_groupValue (values_ne_list _)]
    exact List.mem_map_of_mem (List.mem_filter.mpr ⟨he, beq_self_eq_true _⟩)
  exact List.mem_flatMap.mpr ⟨_, List.mem_filter.mpr ⟨hentry, hkind⟩, List.mem_map_of_mem hitem⟩

/-! ### Tables -/

variable {bytes : List UInt8} {path : String} {table : Table}

/-- The table of a file describes its document. -/
theorem describes_of_ofFile (hread : Element.read? bytes = some root)
    (hload : (Loading.ofFile setting path (some bytes)).result = .ok table) :
    List.Forall₂ (Describes setting) table (Document.ofElement root).items := by
  have hdocument : (some bytes).bind Document.read? = some (Document.ofElement root) := by
    rw [Option.bind_some, Document.read?, hread]
    rfl
  rw [Loading.ofFile_result hdocument] at hload
  rcases ofDocument_cases setting (mayBeId_of_read hread) with ⟨-, table', htable', describes⟩ | ⟨front, err, -, hfails⟩
  · rw [htable'] at hload
    cases hload
    exact describes
  · rw [hfails] at hload
    cases hload

/-- What is related to a list has a partner for each of its members. -/
theorem exists_partner {α β : Type} {R : α → β → Prop} {as : List α} {bs : List β} (h : List.Forall₂ R as bs) :
    (∀ a ∈ as, ∃ b ∈ bs, R a b) ∧ ∀ b ∈ bs, ∃ a ∈ as, R a b := by
  induction h with
  | nil => exact ⟨nofun, nofun⟩
  | cons hhead _ ih =>
      simp only [List.forall_mem_cons, List.exists_mem_cons_iff]
      exact ⟨⟨.inl hhead, fun a ha => .inr (ih.1 a ha)⟩, .inl hhead, fun b hb => .inr (ih.2 b hb)⟩

/-- The statement that is found under an id is that of an item with it. -/
theorem exists_item_of_get? {items : List Item} {s : Statement} {id : String}
    (describes : List.Forall₂ (Describes setting) table items) (hs : table.get? (.str id) = some s) :
    ∃ i ∈ items, i.id = .text id ∧ Describes setting s i := by
  obtain ⟨i, hi, describes⟩ := (exists_partner describes).1 s (List.mem_of_find?_eq_some hs)
  obtain ⟨id', hid, hname⟩ := describes.name
  have hsame := List.find?_some hs
  rw [hname, Value.sameKey_str, beq_iff_eq] at hsame
  exact ⟨i, hi, hsame ▸ hid, describes⟩

end SqlMapper.Mapper
