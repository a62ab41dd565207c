import Mathlib
import SqlMapper.Proofs.Mapper.Flaws
/-!
# SqlMapper.Proofs.Mapper.Documented

Which errors a document from a file may end in. What an XML document is folded into has texts, lists and mappings
only, so what is looked up as an id is one of these (`mayBeId_of_read`). A caller is told to expect items without
an id, repeated ids and faulty templates. But children share their names with attributes, so an id may be a list
or a mapping (`id_eq_collection_iff`), and this is not looked for; nor is a body that fails for another reason than
a fault in it. If nothing comes before them, these two escape (`documented_iff_not_escapes`).
-/

namespace SqlMapper.Mapper

open Xml (Node Element)

/-- Is an error one that a caller is told to expect: the fault of the document, of an item or of a template? -/
def DocumentError.isDocumented : DocumentError → Bool
  | compile (.failure _) | failure _ => false
  | _ => true

/-! ### The ids of elements -/

/-- The id of an element is no text, but a list or a mapping: several of its children are called so, or one is
that has attributes or children itself. -/
inductive NestsId (e : Element) : String → Prop
  | list (several : 2 ≤ (labelled (Node.elements e.content) nameKey).length) : NestsId e "list"
  | mapping {c : Element} (single : labelled (Node.elements e.content) nameKey = [c])
      (more : c.attributes ≠ [] ∨ Node.elements c.content ≠ []) : NestsId e "dict"

/-- An element is a text, if it has neither attributes nor children, and a mapping that is not empty else. -/
theorem elementValue_cases (e : Element) :
    (e.attributes = [] ∧ Node.elements e.content = [] ∧ ∃ s, elementValue e = .str s) ∨
    ((e.attributes ≠ [] ∨ Node.elements e.content ≠ []) ∧ ∃ entry es, elementValue e = .dict (entry :: es)) := by
  rw [elementValue_eq]
  split
  case isTrue hplain => exact .inl ⟨hplain.1, hplain.2, _, rfl⟩
  case isFalse hmore =>
      rw [not_and_or] at hmore
      have hne := mappingOf_ne_nil (hmore.imp_right (mt gathered_eq_nil_iff.mp)) (elementText e.content)
      obtain ⟨entry, d, hd⟩ := List.exists_cons_of_ne_nil hne
      rw [hd]
      exact .inr ⟨hmore, _, _, rfl⟩

/-- What is looked up as the id of an element: its children of that name, or else its attribute. -/
theorem part?_nameKey {e : Element} (hdistinct : Xml.Distinct e.attributes) : part? (elementValue e) nameKey =
    if labelled (Node.elements e.content) nameKey = [] then (e.attribute? nameKey).map .str
    else some (groupValue ((labelled (Node.elements e.content) nameKey).map elementValue)) := by
  rw [part?_elementValue hdistinct (by decide) (by decide), get?_gathered]
  by_cases h : labelled (Node.elements e.content) nameKey = []
  · rw [if_pos h, if_neg (labelled_eq_nil_iff.mp h), Option.none_or]
  · rw [if_neg h, if_pos (not_not.mp (mt labelled_eq_nil_iff.mpr h)), Option.some_or]

theorem mayBeId_part? {e : Element} (hdistinct : Xml.Distinct e.attributes) :
    MayBeId (part? (elementValue e) nameKey) := by
  rw [part?_nameKey hdistinct]
  split
  case isTrue =>
      cases e.attribute? nameKey with
      | none => exact .absent
      | some s => exact .text s
  case isFalse =>
      match labelled (Node.elements e.content) nameKey with
      | [c] =>
          rcases elementValue_cases c with ⟨-, -, s, h⟩ | ⟨-, entry, es, h⟩
          · simp only [List.map_cons, List.map_nil, groupValue, h]
            exact .text s
          · simp only [List.map_cons, List.map_nil, groupValue, h]
            exact .mapping _
      | [] => exact .list _
      | _ :: _ :: _ => exact .list _

theorem id_eq_collection_iff {e : Element} (hdistinct : Xml.Distinct e.attributes) (key type : String) :
    Item.id ⟨key, elementValue e⟩ = .collection type ↔ NestsId e type := by
  unfold Item.id
  rw [part?_nameKey hdistinct]
  match hes : labelled (Node.elements e.content) nameKey with
  | [] =>
      rw [if_pos rfl]
      constructor
      · intro h
        cases hattribute : e.attribute? nameKey with
        | none => simp [hattribute] at h
        | some s => by_cases hs : s = "" <;> simp [hattribute, hs] at h
      · intro h
        cases h with
        | list several => simp [hes] at several
        | mapping single => simp [hes] at single
  | [c] =>
      rw [if_neg (List.cons_ne_nil _ _)]
      simp only [List.map_cons, List.map_nil, groupValue]
      rcases elementValue_cases c with ⟨hattributes, hchildren, s, hc⟩ | ⟨hmore, entry, es, hc⟩
      · rw [hc]
        constructor
        · intro h
          by_cases hs : s = "" <;> simp [hs] at h
        · intro h
          cases h with
          | list several => simp [hes] at several
          | mapping single more =>
              cases hes.symm.trans single
              exact absurd more (by simp [hattributes, hchildren])
      · rw [hc]
        constructor
        · intro h
          cases h
          exact .mapping hes hmore
        · intro h
          cases h with
          | list several => simp [hes] at several
          | mapping => rfl
  | c :: c' :: rest =>
      rw [if_neg (List.cons_ne_nil _ _)]
      constructor
      · intro h
        cases h
        exact .list (by simp [hes])
      · intro h
        cases h with
        | list => rfl
        | mapping single => cases hes.symm.trans single

/-! ### The items of a document that is read -/

/-- An item stands for an element in the root, or it is a text beside them. -/
theorem item_cases {root : Element} {i : Item} (hi : i ∈ (Document.ofElement root).items) :
    (∃ s, i.value = .str s) ∨ ∃ e ∈ Node.elements root.content, i = ⟨e.label, elementValue e⟩ := by
  obtain ⟨⟨key, v⟩, hentry, hv⟩ := List.mem_flatMap.mp hi
  obtain ⟨v', hv', rfl⟩ := List.mem_map.mp hv
  have hmem := (List.mem_filter.mp hentry).1
  rw [ofElement_eq] at hmem
  split at hmem
  case isTrue => cases hmem
  case isFalse =>
      rcases mem_of_mem_mappingOf hmem with ⟨s, rfl⟩ | hchild
      · exact .inl ⟨s, List.mem_singleton.mp hv'⟩
      · rw [children_nil, gathered_eq] at hchild
        obtain ⟨l, -, hl⟩ := List.mem_map.mp hchild
        cases hl
        rw [entryItems_groupValue (values_ne_list _)] at hv'
        obtain ⟨e, he, rfl⟩ := List.mem_map.mp hv'
        obtain ⟨he, hlabel⟩ := List.mem_filter.mp he
        exact .inr ⟨e, he, by rw [eq_of_beq hlabel]⟩

variable {root : Element} {bytes : List UInt8}

theorem mayBeId_of_read (hread : Element.read? bytes = some root) :
    ∀ i ∈ (Document.ofElement root).items, MayBeId (part? i.value nameKey) := by
  obtain ⟨-, hdistinct⟩ := Element.distinct_of_read? hread
  intro i hi
  rcases item_cases hi with ⟨s, h⟩ | ⟨e, he, rfl⟩
  · rw [h]
    exact .absent
  · exact mayBeId_part? (hdistinct e he)

/-! ### Errors -/

/-- What may be wrong with an item without being reported as such, and the error that it comes to. -/
inductive Escapes (setting : Setting) (root : Element) (before : List Item) (i : Item) : DocumentError → Prop
  | nested {e : Element} {type : String} (mem : e ∈ Node.elements root.content)
      (item : i = ⟨e.label, elementValue e⟩) (nests : NestsId e type) :
      Escapes setting root before i (.failure (.unhashable type))
  | body {f : Failure} (flaw : Flaw setting before i (.compile (.failure f))) :
      Escapes setting root before i (.compile (.failure f))

variable {setting : Setting} {before : List Item} {i : Item} {err : DocumentError}

theorem Escapes.flaw (hread : Element.read? bytes = some root) (h : Escapes setting root before i err) :
    Flaw setting before i err := by
  obtain ⟨-, hdistinct⟩ := Element.distinct_of_read? hread
  cases h with
  | nested mem item nests =>
      rw [item]
      exact .unusable ((id_eq_collection_iff (hdistinct _ mem) _ _).mpr nests)
  | body flaw => exact flaw

/-- Any other flaw is reported as such. -/
theorem Flaw.escapes (hread : Element.read? bytes = some root) (hi : i ∈ (Document.ofElement root).items)
    (h : Flaw setting before i err) (hdocumented : err.isDocumented = false) :
    Escapes setting root before i err := by
  obtain ⟨-, hdistinct⟩ := Element.distinct_of_read? hread
  cases h with
  | unnamed | duplicate => cases hdocumented
  | @unusable type unusable =>
      rcases item_cases hi with ⟨s, hs⟩ | ⟨e, he, rfl⟩
      · unfold Item.id at unusable
        rw [hs] at unusable
        cases unusable
      · exact .nested he rfl ((id_eq_collection_iff (hdistinct e he) _ _).mp unusable)
  | uncompiled named new failed =>
      obtain ⟨c, rfl⟩ := exists_of_compileBody failed
      cases c with
      | faulty => cases hdocumented
      | failure f => exact .body (.uncompiled named new failed)

end SqlMapper.Mapper
