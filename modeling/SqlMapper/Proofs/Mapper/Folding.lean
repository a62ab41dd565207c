import Mathlib
import SqlMapper.Mapper.Document
import SqlMapper.Proofs.Value.Entries
import SqlMapper.Proofs.Xml.Attributes
/-!
# SqlMapper.Proofs.Mapper.Folding

What becomes of an element when it is folded into a mapping. Its children can be asked for by name, and so can
its attributes and its text, as long as nothing hides them (`get?_mappingOf_of_child`, `get?_mappingOf_of_attribute`,
`get?_textKey_mappingOf`), and nothing else can (`get?_mappingOf_eq_none`). Putting and adding work on the entries of
the names that are looked at as on all (`filter_put`, `filter_addChild`), so an element is folded into the entries of
its children, if neither its attributes nor its text are looked at (`filter_mappingOf`).
-/

namespace SqlMapper.Mapper

open Xml (Node Element)

/-! ### Entries of a document -/

namespace Document

theorem get?_put (d : Document) (key k : String) (v : Value) :
    (d.put k v).get? key = if key = k then some v else d.get? key := by
  unfold get?
  induction d with
  | nil => exact lookup_cons_ite key k v []
  | cons entry d ih =>
      obtain ⟨l, w⟩ := entry
      by_cases hl : l = k
      · subst hl
        by_cases h : key = l <;> simp [put, lookup_cons_ite, h]
      · by_cases h : key = l
        · subst h
          simp [put, hl]
        · simp [put, lookup_cons_ite, hl, h, ih]

/-- Putting under a name is putting among the entries of the names that are looked at. -/
theorem filter_put (p : String → Bool) (d : Document) (k : String) (v : Value) :
    (d.put k v).filter (fun e => p e.1) =
      if p k then put k v (d.filter fun e => p e.1) else d.filter fun e => p e.1 := by
  induction d with
  | nil => by_cases h : p k = true <;> simp [put, h]
  | cons entry d ih =>
      obtain ⟨l, w⟩ := entry
      by_cases hl : l = k
      · subst hl
        by_cases h : p l = true <;> simp [put, h]
      · by_cases h : p k = true <;> by_cases h' : p l = true <;> simp [put, hl, h, h', ih]

theorem filter_addChild (p : String → Bool) (d : Document) (k : String) (v : Value) :
    (d.addChild k v).filter (fun e => p e.1) =
      if p k then addChild k v (d.filter fun e => p e.1) else d.filter fun e => p e.1 := by
  induction d with
  | nil => by_cases h : p k = true <;> simp [addChild, h]
  | cons entry d ih =>
      obtain ⟨l, w⟩ := entry
      by_cases hl : l = k
      · subst hl
        by_cases h : p l = true <;> cases w <;> simp [addChild, h]
      · by_cases h : p k = true <;> by_cases h' : p l = true <;> simp [addChild, hl, h, h', ih]

/-- A new name is put at the end. -/
theorem put_of_new {d : Document} {k : String} (h : k ∉ d.map (·.1)) (v : Value) : d.put k v = d ++ [(k, v)] := by
  induction d with
  | nil => rfl
  | cons entry d ih =>
      obtain ⟨l, w⟩ := entry
      simp only [List.map_cons, List.mem_cons, not_or] at h
      simp [put, Ne.symm h.1, ih h.2]

/-- Put one entry after the other. -/
def putAll (d es : Document) : Document := es.foldl (fun (d : Document) e => d.put e.1 e.2) d

theorem putAll_cons (d : Document) (e : String × Value) (es : Document) :
    d.putAll (e :: es) = (d.put e.1 e.2).putAll es := rfl

theorem get?_putAll {key : String} {es : Document} (h : key ∉ es.map (·.1)) (d : Document) :
    (d.putAll es).get? key = d.get? key := by
  induction es generalizing d with
  | nil => rfl
  | cons e es ih =>
      simp only [List.map_cons, List.mem_cons, not_or] at h
      rw [putAll_cons, ih h.2, get?_put, if_neg h.1]

/-- Of entries of different names each can be asked for; they hide what was there before. -/
theorem get?_putAll_of_nodup {es : Document} (h : (es.map (·.1)).Nodup) (d : Document) (key : String) :
    (d.putAll es).get? key = (es.get? key).or (d.get? key) := by
  induction es generalizing d with
  | nil => rfl
  | cons e es ih =>
      obtain ⟨hnew, hrest⟩ := List.nodup_cons.mp h
      have hcons : get? (e :: es) key = if key = e.1 then some e.2 else get? es key := lookup_cons_ite _ _ _ _
      rw [putAll_cons, ih hrest, get?_put, hcons]
      by_cases hkey : key = e.1
      · have hnone : get? es key = none := by
          rw [get?, List.lookup_eq_none_iff]
          intro e' he'
          rw [bne_iff_ne, hkey]
          exact fun heq => hnew (List.mem_map.mpr ⟨e', he', heq.symm⟩)
        rw [if_pos hkey, if_pos hkey, hnone]
        rfl
      · rw [if_neg hkey, if_neg hkey]

/-- What stands in a document has stood there before or been put. -/
theorem mem_of_mem_put {entry : String × Value} {d : Document} {k : String} {v : Value} (h : entry ∈ d.put k v) :
    entry ∈ d ∨ entry = (k, v) := by
  induction d with
  | nil => exact .inr (List.mem_singleton.mp h)
  | cons e d ih =>
      obtain ⟨l, w⟩ := e
      rw [put] at h
      split at h
      case isTrue hl =>
          rcases List.mem_cons.mp h with rfl | h
          · exact .inr (by rw [eq_of_beq hl])
          · exact .inl (List.mem_cons_of_mem _ h)
      case isFalse =>
          rcases List.mem_cons.mp h with rfl | h
          · exact .inl List.mem_cons_self
          · exact (ih h).imp_left (List.mem_cons_of_mem _)

theorem mem_of_mem_putAll {entry : String × Value} {d es : Document} (h : entry ∈ d.putAll es) :
    entry ∈ d ∨ entry ∈ es := by
  induction es generalizing d with
  | nil => exact .inl h
  | cons e es ih =>
      rcases ih h with h | h
      · refine (mem_of_mem_put h).imp_right fun heq => ?_
        rw [heq]
        exact List.mem_cons_self
      · exact .inr (List.mem_cons_of_mem _ h)

theorem put_ne_nil (d : Document) (k : String) (v : Value) : d.put k v ≠ [] := by
  cases d with
  | nil => exact List.cons_ne_nil _ _
  | cons e d =>
      rw [put]
      split <;> exact List.cons_ne_nil _ _

theorem putAll_ne_nil {d es : Document} (h : d ≠ [] ∨ es ≠ []) : d.putAll es ≠ [] := by
  induction es generalizing d with
  | nil => exact h.resolve_right fun hne => hne rfl
  | cons e es ih => exact ih (.inl (d.put_ne_nil e.1 e.2))

theorem filter_putAll (p : String → Bool) (d es : Document) :
    (d.putAll es).filter (fun e => p e.1) =
      putAll (d.filter fun e => p e.1) (es.filter fun e => p e.1) := by
  induction es generalizing d with
  | nil => rfl
  | cons e es ih =>
      rw [putAll_cons, ih, filter_put, List.filter_cons]
      split
      · rfl
      · rfl

/-- Entries of different names are put as they come. -/
theorem putAll_of_nodup {d es : Document} (h : ((d ++ es).map (·.1)).Nodup) : d.putAll es = d ++ es := by
  induction es generalizing d with
  | nil => exact (List.append_nil d).symm
  | cons e es ih =>
      rw [putAll_cons, put_of_new (not_mem_keys_of_nodup h), ih (by simpa using h), List.append_assoc, List.singleton_append]

/-- A name that is new comes behind those that are there. -/
theorem keys_put (d : Document) (k : String) (v : Value) :
    (d.put k v).map (·.1) = if k ∈ d.map (·.1) then d.map (·.1) else d.map (·.1) ++ [k] := by
  induction d with
  | nil => rfl
  | cons entry d ih =>
      obtain ⟨l, w⟩ := entry
      by_cases hl : l = k
      · subst hl
        simp [put]
      · have hk : k ≠ l := Ne.symm hl
        simp only [put, beq_eq_false_iff_ne.mpr hl, Bool.false_eq_true, if_false, List.map_cons, ih, List.mem_cons,
          hk, false_or]
        split <;> rfl

/-- Different names stay different. -/
theorem nodup_put {d : Document} (h : (d.map (·.1)).Nodup) (k : String) (v : Value) :
    ((d.put k v).map (·.1)).Nodup := by
  rw [keys_put]
  split
  case isTrue => exact h
  case isFalse hk => exact List.nodup_append_comm.mp (List.nodup_cons.mpr ⟨hk, h⟩)

theorem nodup_putAll {d : Document} (h : (d.map (·.1)).Nodup) (es : Document) : ((d.putAll es).map (·.1)).Nodup := by
  induction es generalizing d with
  | nil => exact h
  | cons e es ih => exact ih (nodup_put h e.1 e.2)

end Document

/-! ### Attributes and text -/

/-- Only a name in no namespace has a text without a brace at its front. -/
theorem Name.text_eq_iff {name : Xml.Name} {key : String} (hkey : key.toList.head? ≠ some '\x7b') :
    name.text = key ↔ name = ⟨"", key⟩ := by
  obtain ⟨space, label⟩ := name
  unfold Xml.Name.text
  by_cases hspace : space = ""
  · simp [hspace]
  · have hne : ¬ ("\x7b" ++ space ++ "\x7d" ++ label = key) := by
      rintro rfl
      exact hkey (by simp)
    simp [hspace, hne]

/-- The entries of attributes. -/
def attributeEntries (attributes : List (Xml.Name × String)) : Document :=
  attributes.map fun a => (a.1.text, .str a.2)

/-- The entries that an element is folded into, if it is no mere text. -/
def mappingOf (attributes : List (Xml.Name × String)) (children : Document) (text : String) : Document :=
  let d := (Document.putAll [] (attributeEntries attributes)).putAll children
  if text.isEmpty then d else d.put textKey (.str text)

theorem foldElement_eq (attributes : List (Xml.Name × String)) (children : Document) (text : String) :
    foldElement attributes children text =
      if attributes.isEmpty && children.isEmpty then .str text
      else (mappingOf attributes children text).value := by
  unfold mappingOf attributeEntries Document.putAll
  rw [List.foldl_map]
  rfl

theorem get?_attributeEntries {key : String} (hkey : key.toList.head? ≠ some '\x7b')
    {attributes : List (Xml.Name × String)} (hdistinct : Xml.Distinct attributes) (d : Document) :
    (d.putAll (attributeEntries attributes)).get? key =
      ((attributes.lookup ⟨"", key⟩).map .str).or (d.get? key) := by
  induction attributes generalizing d with
  | nil => rfl
  | cons a attributes ih =>
      obtain ⟨name, value⟩ := a
      obtain ⟨hnew, hrest⟩ := List.nodup_cons.mp hdistinct
      have hcons : attributeEntries ((name, value) :: attributes) =
          (name.text, .str value) :: attributeEntries attributes := rfl
      rw [hcons, Document.putAll_cons, ih hrest, Document.get?_put, lookup_cons_ite]
      by_cases hname : name = ⟨"", key⟩
      · have hnone : attributes.lookup ⟨"", key⟩ = none := by
          rw [List.lookup_eq_none_iff]
          intro b hb
          rw [bne_iff_ne]
          intro hb'
          exact hnew (List.mem_map.mpr ⟨b, hb, (hname.trans hb').symm⟩)
        rw [if_pos ((Name.text_eq_iff hkey).mpr hname).symm, if_pos hname.symm, hnone]
        rfl
      · rw [if_neg fun h => hname ((Name.text_eq_iff hkey).mp h.symm), if_neg (Ne.symm hname)]

variable {attributes : List (Xml.Name × String)} {children : Document}

/-- What is asked for, the text apart, is a child or else what the attributes come to. -/
theorem get?_mappingOf_of_ne {key : String} (htext : key ≠ textKey) (hchildren : (children.map (·.1)).Nodup)
    (text : String) : (mappingOf attributes children text).get? key =
      (children.get? key).or ((Document.putAll [] (attributeEntries attributes)).get? key) := by
  have hget := Document.get?_putAll_of_nodup hchildren (Document.putAll [] (attributeEntries attributes)) key
  unfold mappingOf
  dsimp only
  split
  case isTrue => exact hget
  case isFalse => rw [Document.get?_put, if_neg htext, hget]

/-- What is asked for is a child, or else an attribute. -/
theorem get?_mappingOf {key : String} (hkey : key.toList.head? ≠ some '\x7b') (htext : key ≠ textKey)
    (hdistinct : Xml.Distinct attributes) (hchildren : (children.map (·.1)).Nodup) (text : String) :
    (mappingOf attributes children text).get? key =
      (children.get? key).or ((attributes.lookup ⟨"", key⟩).map .str) := by
  have hnil : Document.get? [] key = none := rfl
  rw [get?_mappingOf_of_ne htext hchildren, get?_attributeEntries hkey hdistinct, hnil, Option.or_none]

/-- A child is found under its name, whatever attributes there are. -/
theorem get?_mappingOf_of_child {key : String} {v : Value} (hkey : key ≠ textKey)
    (hchildren : (children.map (·.1)).Nodup) (hchild : children.get? key = some v) (text : String) :
    (mappingOf attributes children text).get? key = some v := by
  rw [get?_mappingOf_of_ne hkey hchildren, hchild, Option.some_or]

/-- An attribute is found under its name, if no other has it and no child. -/
theorem get?_mappingOf_of_attribute (hapart : Xml.WrittenApart attributes) {a : Xml.Name × String}
    (ha : a ∈ attributes) (hkey : a.1.text ≠ textKey) (hchildren : (children.map (·.1)).Nodup)
    (hchild : children.get? a.1.text = none) (text : String) :
    (mappingOf attributes children text).get? a.1.text = some (.str a.2) := by
  have hkeys : ((attributeEntries attributes).map (·.1)).Nodup := by
    rw [attributeEntries, List.map_map]
    exact hapart
  have hentry : (a.1.text, Value.str a.2) ∈ attributeEntries attributes := List.mem_map_of_mem ha
  rw [get?_mappingOf_of_ne hkey hchildren, hchild, Option.none_or, Document.putAll_of_nodup hkeys, List.nil_append]
  exact lookup_of_mem hkeys hentry

/-- What is no child, no attribute and not the text is not there. -/
theorem get?_mappingOf_eq_none {key : String} (htext : key ≠ textKey) (hchildren : (children.map (·.1)).Nodup)
    (hchild : children.get? key = none) (hattributes : ∀ a ∈ attributes, a.1.text ≠ key) (text : String) :
    (mappingOf attributes children text).get? key = none := by
  have hkeys : key ∉ (attributeEntries attributes).map (·.1) := by
    rw [attributeEntries, List.map_map]
    intro hmem
    obtain ⟨a, ha, heq⟩ := List.mem_map.mp hmem
    exact hattributes a ha heq
  rw [get?_mappingOf_of_ne htext hchildren, hchild, Option.none_or, Document.get?_putAll hkeys]
  rfl

/-- The text hides all else that has its name. -/
theorem get?_textKey_of_text {text : String} (htext : text ≠ "") :
    (mappingOf attributes children text).get? textKey = some (.str text) := by
  have hempty : ¬ text.isEmpty = true := mt String.isEmpty_iff.mp htext
  rw [mappingOf, if_neg hempty, Document.get?_put, if_pos rfl]

/-- The text can be asked for, if nothing else has its name. -/
theorem get?_textKey_mappingOf (hdistinct : Xml.Distinct attributes)
    (hattribute : attributes.lookup ⟨"", textKey⟩ = none) (hchildren : textKey ∉ children.map (·.1))
    (text : String) :
    (mappingOf attributes children text).get? textKey = if text.isEmpty then none else some (.str text) := by
  split
  case isTrue hempty =>
      have hget := Document.get?_putAll hchildren (Document.putAll [] (attributeEntries attributes))
      rw [get?_attributeEntries (by decide) hdistinct, hattribute] at hget
      rw [mappingOf, if_pos hempty]
      exact hget
  case isFalse hempty => exact get?_textKey_of_text (mt String.isEmpty_iff.mpr hempty)

theorem nodup_mappingOf (attributes : List (Xml.Name × String)) (children : Document) (text : String) :
    ((mappingOf attributes children text).map (·.1)).Nodup := by
  have own : (((Document.putAll [] (attributeEntries attributes)).putAll children).map (·.1)).Nodup :=
    Document.nodup_putAll (Document.nodup_putAll (d := []) List.nodup_nil _) _
  unfold mappingOf
  dsimp only
  split
  case isTrue => exact own
  case isFalse => exact Document.nodup_put own _ _

/-- An attribute and the text are texts; all else are children. -/
theorem mem_of_mem_mappingOf {text : String} {entry : String × Value} (h : entry ∈ mappingOf attributes children text) :
    (∃ s, entry.2 = .str s) ∨ entry ∈ children := by
  have own : entry ∈ (Document.putAll [] (attributeEntries attributes)).putAll children →
      (∃ s, entry.2 = .str s) ∨ entry ∈ children := by
    intro h
    rcases Document.mem_of_mem_putAll h with h | h
    · rcases Document.mem_of_mem_putAll h with h | h
      · cases h
      · obtain ⟨a, -, rfl⟩ := List.mem_map.mp h
        exact .inl ⟨_, rfl⟩
    · exact .inr h
  unfold mappingOf at h
  dsimp only at h
  split at h
  case isTrue => exact own h
  case isFalse =>
      rcases Document.mem_of_mem_put h with h | rfl
      · exact own h
      · exact .inl ⟨_, rfl⟩

theorem mappingOf_ne_nil (h : attributes ≠ [] ∨ children ≠ []) (text : String) :
    mappingOf attributes children text ≠ [] := by
  have own : (Document.putAll [] (attributeEntries attributes)).putAll children ≠ [] := by
    refine Document.putAll_ne_nil (h.imp_left fun hne => Document.putAll_ne_nil (.inr ?_))
    exact fun hnil => hne (List.map_eq_nil_iff.mp hnil)
  unfold mappingOf
  dsimp only
  split
  case isTrue => exact own
  case isFalse => exact Document.put_ne_nil _ _ _

/-- What is asked of children is not a matter of attributes and text. -/
theorem filter_mappingOf {p : String → Bool} (hattributes : ∀ a ∈ attributes, p a.1.text = false)
    (htext : p textKey = false) (hchildren : (children.map (·.1)).Nodup) (text : String) :
    (mappingOf attributes children text).filter (fun e => p e.1) = children.filter fun e => p e.1 := by
  have own : (attributeEntries attributes).filter (fun e => p e.1) = [] := by
    rw [List.filter_eq_nil_iff]
    intro e he
    obtain ⟨a, ha, rfl⟩ := List.mem_map.mp he
    simp [hattributes a ha]
  have children' : ((Document.putAll [] (attributeEntries attributes)).putAll children).filter (fun e => p e.1) =
      children.filter fun e => p e.1 := by
    rw [Document.filter_putAll, Document.filter_putAll, own, List.filter_nil]
    exact Document.putAll_of_nodup (hchildren.sublist (List.filter_sublist.map _))
  unfold mappingOf
  dsimp only
  split
  case isTrue => exact children'
  case isFalse => rw [Document.filter_put, htext, if_neg Bool.false_ne_true, children']

end SqlMapper.Mapper
