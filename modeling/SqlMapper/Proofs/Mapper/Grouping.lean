import Mathlib
import SqlMapper.Proofs.Mapper.Folding
/-!
# SqlMapper.Proofs.Mapper.Grouping

The children of an element come in groups (`gathered_eq`): one for each local name, in the order in which the names
appear first, and inside a group in the order of the document. Taken apart again the groups give all children
back (`byLabel_perm`), since no child is folded into a list. Asides leave no trace at any depth
(`elementValue_bare`).
-/

namespace SqlMapper.Mapper

open Xml (Node Element)

/-! ### Groups of children -/

/-- The local names of elements, in the order in which they appear first. -/
def labels (es : List Element) : List String := (es.map (·.label)).eraseDups

/-- The elements of one local name. -/
def labelled (es : List Element) (label : String) : List Element := es.filter (·.label == label)

/-- Elements by local name: the names in the order in which they appear first, the elements of one name in
that of the document. -/
def byLabel (es : List Element) : List Element := (labels es).flatMap (labelled es)

/-- Elements folded into the entries of a document. -/
def gathered (es : List Element) : Document :=
  es.foldl (fun (d : Document) e => d.addChild e.label (elementValue e)) []

/-- The value of a group. -/
def groupValue : List Value → Value
  | [v] => v
  | vs => .list vs

theorem elementValue_ne_list (e : Element) (vs : List Value) : elementValue e ≠ .list vs := by
  unfold elementValue
  rw [foldElement_eq]
  split <;> exact Value.noConfusion

theorem mem_labels {es : List Element} {l : String} : l ∈ labels es ↔ ∃ e ∈ es, e.label = l := by
  simp [labels]

theorem values_ne_list (es : List Element) : ∀ v ∈ es.map elementValue, ∀ vs, v ≠ .list vs := by
  intro v hv vs
  obtain ⟨e, -, rfl⟩ := List.mem_map.mp hv
  exact elementValue_ne_list e vs

theorem labels_append (es : List Element) (e : Element) :
    labels (es ++ [e]) = if e.label ∈ labels es then labels es else labels es ++ [e.label] := by
  simp only [labels, List.map_append, List.map_cons, List.map_nil, List.eraseDups_append, List.mem_eraseDups]
  split
  case isTrue h =>
      rw [List.removeAll, List.filter_cons_of_neg (by simpa using h), List.filter_nil]
      exact List.append_nil _
  case isFalse h =>
      rw [List.removeAll, List.filter_cons_of_pos (by simpa using h), List.filter_nil]
      rfl

theorem labels_nodup (es : List Element) : (labels es).Nodup := by
  induction es using List.reverseRecOn with
  | nil => exact List.nodup_nil
  | append_singleton es e ih =>
      rw [labels_append]
      split
      case isTrue => exact ih
      case isFalse h =>
          refine List.nodup_append.mpr ⟨ih, List.nodup_singleton _, fun l hl l' hl' heq => h ?_⟩
          rwa [← List.mem_singleton.mp hl', ← heq]

theorem labelled_append (es : List Element) (e : Element) (l : String) :
    labelled (es ++ [e]) l = if e.label = l then labelled es l ++ [e] else labelled es l := by
  by_cases h : e.label = l <;> simp [labelled, h]

theorem labelled_ne_nil {es : List Element} {l : String} (h : l ∈ labels es) : labelled es l ≠ [] := by
  obtain ⟨e, he, hl⟩ := mem_labels.mp h
  exact List.ne_nil_of_mem (List.mem_filter.mpr ⟨he, by simp [hl]⟩)

theorem labelled_eq_nil_iff {es : List Element} {l : String} : labelled es l = [] ↔ l ∉ labels es := by
  refine ⟨fun h hl => labelled_ne_nil hl h, fun h => List.filter_eq_nil_iff.mpr fun e he => ?_⟩
  rw [beq_iff_eq]
  exact fun heq => h (mem_labels.mpr ⟨e, he, heq⟩)

theorem labels_eq_nil_iff {es : List Element} : labels es = [] ↔ es = [] := by
  constructor
  · intro h
    rw [List.eq_nil_iff_forall_not_mem]
    intro e he
    have hlabel := mem_labels.mpr ⟨e, he, rfl⟩
    rw [h] at hlabel
    cases hlabel
  · rintro rfl
    rfl

/-- A further child joins the group of its name. -/
theorem addChild_group {vs : List Value} (hne : vs ≠ []) (hvs : ∀ v ∈ vs, ∀ ws, v ≠ .list ws) (k : String)
    (v : Value) (rest : Document) :
    Document.addChild k v ((k, groupValue vs) :: rest) = (k, groupValue (vs ++ [v])) :: rest := by
  match vs with
  | [] => exact absurd rfl hne
  | [w] =>
      have hw := hvs w (by simp)
      cases w with
      | list ws => exact absurd rfl (hw ws)
      | _ => simp [Document.addChild, groupValue]
  | w :: w' :: ws => simp [Document.addChild, groupValue]

theorem addChild_cons_of_ne {k l : String} (h : k ≠ l) (v w : Value) (d : Document) :
    Document.addChild k v ((l, w) :: d) = (l, w) :: d.addChild k v := by
  conv => lhs; unfold Document.addChild
  rw [if_neg (by simpa using h.symm)]

theorem addChild_groups {ls : List String} (hls : ls.Nodup) {f : String → List Value} {k : String} (hk : k ∈ ls)
    (hne : f k ≠ []) (hf : ∀ v ∈ f k, ∀ vs, v ≠ .list vs) (v : Value) :
    Document.addChild k v (ls.map fun l => (l, groupValue (f l))) =
      ls.map fun l => (l, groupValue (if k = l then f l ++ [v] else f l)) := by
  induction ls with
  | nil => cases hk
  | cons l ls ih =>
      obtain ⟨hl, hls⟩ := List.nodup_cons.mp hls
      rw [List.map_cons, List.map_cons]
      by_cases h : k = l
      · subst h
        have rest : ls.map (fun l => (l, groupValue (if k = l then f l ++ [v] else f l))) =
            ls.map fun l => (l, groupValue (f l)) := by
          refine List.map_congr_left fun l' hl' => ?_
          have hne : ¬ k = l' := fun heq => hl (heq ▸ hl')
          rw [if_neg hne]
        rw [addChild_group hne hf, if_pos rfl, rest]
      · have hk := (List.mem_cons.mp hk).resolve_left h
        rw [addChild_cons_of_ne h, ih hls hk, if_neg h]

theorem addChild_of_new {d : Document} {k : String} (h : k ∉ d.map (·.1)) (v : Value) :
    d.addChild k v = d ++ [(k, v)] := by
  induction d with
  | nil => rfl
  | cons entry d ih =>
      obtain ⟨l, w⟩ := entry
      simp only [List.map_cons, List.mem_cons, not_or] at h
      rw [addChild_cons_of_ne h.1, ih h.2, List.cons_append]

/-- The children of an element are gathered by name. -/
theorem gathered_eq (es : List Element) :
    gathered es = (labels es).map fun l => (l, groupValue ((labelled es l).map elementValue)) := by
  -- on the last element: a child joins a group that is there, or begins one at the end
  induction es using List.reverseRecOn with
  | nil => rfl
  | append_singleton es e ih =>
      have step : gathered (es ++ [e]) = (gathered es).addChild e.label (elementValue e) := List.foldl_concat ..
      have group : ∀ l, (labelled (es ++ [e]) l).map elementValue =
          if e.label = l then (labelled es l).map elementValue ++ [elementValue e]
          else (labelled es l).map elementValue := by
        intro l
        rw [labelled_append]
        split
        · rw [List.map_append, List.map_singleton]
        · rfl
      rw [step, ih, labels_append]
      simp only [group]
      split
      case isTrue h =>
          have hne : (labelled es e.label).map elementValue ≠ [] := by simpa using labelled_ne_nil h
          exact addChild_groups (labels_nodup es) h hne (values_ne_list _) _
      case isFalse h =>
          have hnew : e.label ∉ ((labels es).map fun l => (l, groupValue ((labelled es l).map elementValue))).map
              (·.1) := by
            simpa using h
          have hnone : labelled es e.label = [] := by
            rw [labelled, List.filter_eq_nil_iff]
            intro e' he'
            simpa using fun heq => h (mem_labels.mpr ⟨e', he', heq⟩)
          rw [addChild_of_new hnew, List.map_append, List.map_singleton, if_pos rfl, hnone]
          refine congrArg (· ++ _) (List.map_congr_left fun l hl => ?_)
          have hne : ¬ e.label = l := fun heq => h (heq ▸ hl)
          rw [if_neg hne]

theorem gathered_keys (es : List Element) : (gathered es).map (·.1) = labels es := by
  rw [gathered_eq, List.map_map]
  exact List.map_id _

/-- A group is found under its name. -/
theorem get?_gathered (es : List Element) (l : String) : (gathered es).get? l =
    if l ∈ labels es then some (groupValue ((labelled es l).map elementValue)) else none := by
  rw [gathered_eq, Document.get?]
  split
  case isTrue hl => exact List.lookup_graph _ hl
  case isFalse hl =>
      rw [List.lookup_eq_none_iff]
      intro entry hentry
      obtain ⟨l', hl', rfl⟩ := List.mem_map.mp hentry
      rw [bne_iff_ne]
      rintro rfl
      exact hl hl'

/-- Only the names and the values of elements matter. -/
theorem gathered_map {f : Element → Element} (hlabel : ∀ e, (f e).label = e.label)
    (hvalue : ∀ e, elementValue (f e) = elementValue e) (es : List Element) :
    gathered (es.map f) = gathered es := by
  unfold gathered
  simp only [List.foldl_map, hlabel, hvalue]

/-- Elements by local name are the same elements. -/
theorem byLabel_perm (es : List Element) : (byLabel es).Perm es := by
  have all : ∀ (ls : List String) (es : List Element), ls.Nodup → (∀ e ∈ es, e.label ∈ ls) →
      (ls.flatMap (labelled es)).Perm es := by
    intro ls
    induction ls with
    | nil =>
        intro es _ h
        rw [List.eq_nil_iff_forall_not_mem.mpr fun e he => List.not_mem_nil (h e he)]
        rfl
    | cons l ls ih =>
        intro es hls h
        obtain ⟨hl, hls⟩ := List.nodup_cons.mp hls
        -- the groups of other names are those of the elements that are left
        have others : ls.flatMap (labelled es) = ls.flatMap (labelled (es.filter (!·.label == l))) := by
          refine List.flatMap_congr fun l' hl' => ?_
          have hne : l' ≠ l := fun heq => hl (heq ▸ hl')
          rw [labelled, labelled, List.filter_filter]
          refine List.filter_congr fun e _ => ?_
          by_cases heq : e.label = l' <;> simp [heq, hne]
        have hrest := ih (es.filter (!·.label == l)) hls fun e he => by
          obtain ⟨he, hne⟩ := List.mem_filter.mp he
          exact (List.mem_cons.mp (h e he)).resolve_left (by simpa using hne)
        rw [List.flatMap_cons, others]
        exact (hrest.append_left _).trans (List.filter_append_perm (fun e : Element => e.label == l) es)
  exact all (labels es) es (labels_nodup es) fun e he => mem_labels.mpr ⟨e, he, rfl⟩

/-! ### The content of an element -/

theorem children_eq (done : Document) (content : List Node) : children done content =
    (Node.elements content).foldl (fun (d : Document) e => d.addChild e.label (elementValue e)) done := by
  fun_induction Node.elements content generalizing done with
  | case1 => simp [children]
  | case2 name attributes content rest ih =>
      rw [children, ih]
      rfl
  | case3 n rest hn ih =>
      rw [children]
      · exact ih done
      · exact hn

/-- The entries of an element's children. -/
theorem children_nil (content : List Node) : children [] content = gathered (Node.elements content) :=
  children_eq [] content

theorem gathered_eq_nil_iff {es : List Element} : gathered es = [] ↔ es = [] := by
  rw [← List.map_eq_nil_iff (f := fun entry => entry.1), gathered_keys, labels_eq_nil_iff]

/-- An element is its text, if there is nothing else in it, and else what its attributes, its groups of children and
its text come to. -/
theorem elementValue_eq (e : Element) : elementValue e =
    if e.attributes = [] ∧ Node.elements e.content = [] then .str (elementText e.content)
    else (mappingOf e.attributes (gathered (Node.elements e.content)) (elementText e.content)).value := by
  rw [elementValue, foldElement_eq, children_nil]
  simp only [Bool.and_eq_true, List.isEmpty_iff, gathered_eq_nil_iff]

theorem filter_gathered (p : String → Bool) (es : List Element) :
    (gathered es).filter (fun e => p e.1) = gathered (es.filter fun e => p e.label) := by
  have all : ∀ (d : Document) (es : List Element),
      (es.foldl (fun (d : Document) e => d.addChild e.label (elementValue e)) d).filter (fun e => p e.1) =
        (es.filter fun e => p e.label).foldl (fun (d : Document) e => d.addChild e.label (elementValue e))
          (d.filter fun e => p e.1) := by
    intro d es
    induction es generalizing d with
    | nil => rfl
    | cons e es ih =>
        rw [List.foldl_cons, ih, Document.filter_addChild, List.filter_cons]
        split <;> rfl
  exact all [] es

/-- A content without asides at any depth. -/
def bare : List Node → List Node
  | [] => []
  | .text s :: rest => .text s :: bare rest
  | .aside :: rest => bare rest
  | .element name attributes content :: rest => .element name attributes (bare content) :: bare rest

theorem directText_bare (content : List Node) : Node.directText (bare content) = Node.directText content := by
  induction content with
  | nil => simp [bare]
  | cons n rest ih => cases n <;> simp [bare, Node.directText, ih]

theorem children_bare (done : Document) (content : List Node) :
    children done (bare content) = children done content := by
  fun_induction children done content with
  | case1 done => simp [bare, children]
  | case2 done name attributes content rest inner outer =>
      rw [bare, children, inner, elementText, directText_bare]
      exact outer
  | case3 done n rest hn ih =>
      cases n with
      | element name attributes content => exact absurd rfl (hn name attributes content)
      | text s => rw [bare, children, ih]; exact fun _ _ _ => Node.noConfusion
      | aside => rw [bare, ih]

/-- An element without asides. -/
def bareElement (e : Element) : Element := { e with content := bare e.content }

theorem elements_bare (content : List Node) :
    Node.elements (bare content) = (Node.elements content).map bareElement := by
  induction content with
  | nil => simp [bare, Node.elements]
  | cons n rest ih => cases n <;> simp [bare, Node.elements, bareElement, ih]

/-- An element without asides has the value that it has with them. -/
theorem elementValue_bare (e : Element) : elementValue (bareElement e) = elementValue e := by
  unfold elementValue elementText bareElement
  dsimp only
  rw [children_bare, directText_bare]

end SqlMapper.Mapper
