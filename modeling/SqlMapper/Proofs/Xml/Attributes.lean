import Mathlib
import SqlMapper.Proofs.Xml.Names
/-!
# SqlMapper.Proofs.Xml.Attributes

No element that is read has two attributes of one name (`Element.distinct_of_read?`), nor two whose names are one
text, and this at any depth (`Element.isTree_of_read?`). Namespaces make this more than a question of spelling: two
attributes written differently may have one name. It is decided where the names of a tag are expanded, and from there
on an element's attributes stay as they are, so all that has to be followed through the reader is the stack of open
elements.
-/

namespace SqlMapper.Xml

/-! ### Elements in a content -/

/-- The elements that stand directly in a content. -/
def Node.elements : List Node → List Element
  | [] => []
  | .element name attributes content :: rest => ⟨name, attributes, content⟩ :: elements rest
  | _ :: rest => elements rest

/-- The local name of an element. -/
def Element.label (e : Element) : String := e.name.label

/-- The value of the attribute of a name, in no namespace. -/
def Element.attribute? (e : Element) (key : String) : Option String := e.attributes.lookup ⟨"", key⟩

/-- An element and all that stand in it, at any depth. -/
inductive Element.Contains (root : Element) : Element → Prop
  | root : Contains root root
  | child {e c : Element} (he : Contains root e) (hc : c ∈ Node.elements e.content) : Contains root c

/-- No two of these attributes have one name. -/
def Distinct (attributes : List (Name × String)) : Prop := (attributes.map (·.1)).Nodup

/-- No two of these attributes have names of one text. -/
def WrittenApart (attributes : List (Name × String)) : Prop := (attributes.map (·.1.text)).Nodup

/-- An element is an element tree, if no element in it has two attributes whose names are one text. -/
def Element.IsTree (root : Element) : Prop := ∀ e, root.Contains e → WrittenApart e.attributes

/-- An element, if a node is one, has attributes whose names are different texts, and so have all that stand in it. -/
inductive Node.Apart : Node → Prop
  | text (s : String) : Node.Apart (.text s)
  | aside : Node.Apart .aside
  | element {name : Name} {attributes : List (Name × String)} {content : List Node} (own : WrittenApart attributes)
      (inner : ∀ n ∈ content, Node.Apart n) : Node.Apart (.element name attributes content)

theorem WrittenApart.distinct {attributes : List (Name × String)} (h : WrittenApart attributes) :
    Distinct attributes := by
  have htexts : ((attributes.map (·.1)).map Name.text).Nodup := by
    rw [List.map_map]
    exact h
  exact htexts.of_map

theorem Node.exists_of_mem_elements {e : Element} {ns : List Node} (h : e ∈ elements ns) :
    .element e.name e.attributes e.content ∈ ns := by
  fun_induction elements ns with
  | case1 => cases h
  | case2 name attributes content rest ih =>
      rcases List.mem_cons.mp h with rfl | h
      · exact List.mem_cons_self
      · exact List.mem_cons_of_mem _ (ih h)
  | case3 n rest _ ih => exact List.mem_cons_of_mem _ (ih h)

theorem Node.Apart.of_mem_elements {e : Element} {ns : List Node} (h : ∀ n ∈ ns, n.Apart) (he : e ∈ elements ns) :
    Node.Apart (.element e.name e.attributes e.content) := h _ (exists_of_mem_elements he)

/-- What an element is made of at any depth has attributes whose names are different texts, if its node has. -/
theorem Element.isTree_of_apart {root : Element} (h : Node.Apart (.element root.name root.attributes root.content)) :
    root.IsTree := by
  have all : ∀ e, root.Contains e → Node.Apart (.element e.name e.attributes e.content) := by
    intro e he
    induction he with
    | root => exact h
    | child _ hc ih =>
        cases ih with
        | element _ inner => exact .of_mem_elements inner hc
  intro e he
  cases all e he with
  | element own _ => exact own

open Scan

/-! ### Attributes -/

/-- The names of a tag's attributes are expanded one by one, and each is new. -/
theorem expandAttributes_cons {bs : Bindings} {qname value : String} {raw : List (String × String)}
    {attributes : List (Name × String)} (h : expandAttributes bs ((qname, value) :: raw) = some attributes) :
    ∃ rest, expandAttributes bs raw = some rest ∧ (attributes = rest ∨
      ∃ leading name, splitName qname = some (leading, name.label) ∧ name ∉ rest.map (·.1) ∧
        attributes = (name, value) :: rest) := by
  rw [expandAttributes] at h
  obtain ⟨rest, hrest, h⟩ := Option.bind_eq_some_iff.mp h
  refine ⟨rest, hrest, ?_⟩
  have added : ∀ name : Name, (if rest.any (·.1 == name) then none else some ((name, value) :: rest)) =
      some attributes → name ∉ rest.map (·.1) ∧ attributes = (name, value) :: rest := by
    intro name h
    split at h
    case isTrue => cases h
    case isFalse hnew =>
        cases h
        refine ⟨fun hmem => hnew ?_, rfl⟩
        obtain ⟨a, ha, heq⟩ := List.mem_map.mp hmem
        exact List.any_eq_true.mpr ⟨a, ha, by simpa using heq⟩
  by_cases hdeclared : isDeclaration qname = true
  · rw [if_pos hdeclared] at h
    cases h
    exact .inl rfl
  · rw [if_neg hdeclared] at h
    obtain ⟨⟨leading, label⟩, hsplit, h⟩ := Option.bind_eq_some_iff.mp h
    dsimp only at h
    split at h
    case isTrue => exact .inr ⟨leading, ⟨"", label⟩, hsplit, added _ h⟩
    case isFalse =>
        obtain ⟨space, -, h⟩ := Option.bind_eq_some_iff.mp h
        exact .inr ⟨leading, ⟨space, label⟩, hsplit, added _ h⟩

/-- The names of a tag's attributes are expanded only if no two come to one name. -/
theorem distinct_of_expandAttributes {bs : Bindings} {raw : List (String × String)}
    {attributes : List (Name × String)} (h : expandAttributes bs raw = some attributes) :
    Distinct attributes := by
  induction raw generalizing attributes with
  | nil =>
      cases h
      exact List.nodup_nil
  | cons entry raw ih =>
      obtain ⟨rest, hrest, rfl | ⟨leading, name, -, hnew, rfl⟩⟩ := expandAttributes_cons h
      · exact ih hrest
      · exact List.nodup_cons.mpr ⟨hnew, ih hrest⟩

theorem braceless_of_expandAttributes {bs : Bindings} {raw : List (String × String)}
    {attributes : List (Name × String)} (hraw : ∀ a ∈ raw, Braceless a.1)
    (h : expandAttributes bs raw = some attributes) : ∀ a ∈ attributes, Braceless a.1.label := by
  induction raw generalizing attributes with
  | nil =>
      cases h
      simp
  | cons entry raw ih =>
      obtain ⟨hentry, hraw⟩ := List.forall_mem_cons.mp hraw
      obtain ⟨rest, hrest, rfl | ⟨leading, name, hsplit, -, rfl⟩⟩ := expandAttributes_cons h
      · exact ih hraw hrest
      · exact List.forall_mem_cons.mpr ⟨hentry.of_splitName hsplit, ih hraw hrest⟩

/-- Different names without braces are different texts. -/
theorem writtenApart_of_expandAttributes {bs : Bindings} {raw : List (String × String)}
    {attributes : List (Name × String)} (hraw : ∀ a ∈ raw, Braceless a.1)
    (h : expandAttributes bs raw = some attributes) : WrittenApart attributes := by
  have hbraceless := braceless_of_expandAttributes hraw h
  have htexts : ((attributes.map (·.1)).map Name.text).Nodup := by
    refine (distinct_of_expandAttributes h).map_on fun n hn m hm heq => ?_
    obtain ⟨a, ha, rfl⟩ := List.mem_map.mp hn
    obtain ⟨b, hb, rfl⟩ := List.mem_map.mp hm
    exact Name.text_inj (hbraceless a ha) (hbraceless b hb) heq
  rw [List.map_map] at htexts
  exact htexts

/-- The attributes of a tag have names that are read. -/
theorem attributes_braceless (s : Surroundings) (element : String) (n : Nat) {done : List (String × String)}
    (hdone : ∀ a ∈ done, Braceless a.1) :
    Yields (fun tag => ∀ a ∈ tag.1, Braceless a.1) (attributes s element n done) := by
  induction n generalizing done with
  | zero => exact .malformed
  | succ n ih =>
      have finished : ∀ a ∈ done.reverse, Braceless a.1 := fun a ha => hdone a (List.mem_reverse.mp ha)
      unfold attributes
      refine .after fun spaced => .after fun empty => ?_
      split
      case isTrue => exact .pure finished
      case isFalse =>
          refine .after fun ended => ?_
          split
          case isTrue => exact .pure finished
          case isFalse =>
              refine .after fun _ => .bind name_yields fun qname hqname => .after fun _ => .after fun _ =>
                .after fun _ => .after fun _ => .after fun raw => ?_
              split
              case h_1 => exact .malformed
              case h_2 => exact ih (List.forall_mem_cons.mpr ⟨hqname, hdone⟩)

/-! ### Content -/

/-- An element that is open has attributes whose names are different texts, and so have all that stand in it. -/
structure Pending.Apart (e : Pending) : Prop where
  own : WrittenApart e.attributes
  inner : ∀ n ∈ e.content, n.Apart

theorem Pending.Apart.push {e : Pending} (h : e.Apart) {n : Node} (hn : n.Apart) : (e.push n).Apart :=
  ⟨h.own, fun m hm => (List.mem_cons.mp hm).elim (fun heq => heq ▸ hn) (h.inner m)⟩

theorem Pending.Apart.node {e : Pending} (h : e.Apart) : e.node.Apart :=
  .element h.own fun n hn => h.inner n (List.mem_reverse.mp hn)

theorem startTag_apart (s : Surroundings) (bs : Bindings) : Yields (fun opened => opened.1.Apart) (startTag s bs) := by
  unfold startTag
  refine .after fun qname => .after fun cs => .bind (attributes_braceless s qname _ (by simp)) fun tag htag => ?_
  obtain ⟨raw, closed⟩ := tag
  dsimp only
  split
  case h_1 e h =>
      refine .pure ?_
      obtain ⟨bindings, -, h⟩ := Option.bind_eq_some_iff.mp h
      obtain ⟨⟨leading, label⟩, -, h⟩ := Option.bind_eq_some_iff.mp h
      have opened : ∀ space : String, (expandAttributes bindings raw).bind (fun attributes =>
          some { qname, name := ⟨space, label⟩, attributes, content := [], bindings : Pending }) = some e →
          e.Apart := by
        intro space h
        obtain ⟨attributes, hattributes, h⟩ := Option.bind_eq_some_iff.mp h
        cases h
        exact ⟨writtenApart_of_expandAttributes htag hattributes, by simp⟩
      dsimp only at h
      split at h
      case isTrue => exact opened _ h
      case isFalse =>
          split at h
          case isTrue => exact opened _ h
          case isFalse =>
              obtain ⟨space, -, h⟩ := Option.bind_eq_some_iff.mp h
              exact opened space h
  case h_2 => exact .malformed

/-- What a reference stands for is no element. -/
theorem reference_apart (s : Surroundings) : Yields Node.Apart (reference s) := by
  unfold reference
  refine .after fun numeric => ?_
  split
  · exact .after fun c => .pure (.text _)
  · refine .after fun ref => .after fun _ => ?_
    split
    · exact .pure (.text _)
    · dsimp only
      split
      case h_2 => exact .pure .aside
      all_goals exact .after fun _ => .pure .aside

/-- The content of open elements: what is added to one of them is a text, an aside or a finished element. -/
theorem content_apart (s : Surroundings) (n : Nat) (top : Pending) (below : List Pending) (htop : top.Apart)
    (hbelow : ∀ e ∈ below, e.Apart) : Yields Node.Apart (content s n top below) := by
  induction n generalizing top below with
  | zero => exact .malformed
  | succ n ih =>
      have pushed : ∀ m : Node, m.Apart → Yields Node.Apart (content s n (top.push m) below) :=
        fun m hm => ih _ _ (htop.push hm) hbelow
      unfold content
      refine .after fun next => ?_
      split
      case h_1 => exact .after fun _ => .pure htop.node
      case h_2 =>
          refine .after fun closing => ?_
          split
          case isTrue =>
              refine .after fun qname => .after fun _ => .after fun _ => .after fun _ => ?_
              cases below with
              | nil => exact .pure htop.node
              | cons outer rest =>
                  have houter := hbelow outer List.mem_cons_self
                  exact ih _ _ (houter.push htop.node) fun e he => hbelow e (List.mem_cons_of_mem _ he)
          case isFalse =>
              refine .after fun comment => ?_
              split
              case isTrue => exact .after fun _ => pushed _ .aside
              case isFalse =>
                  refine .after fun verbatim => ?_
                  split
                  case isTrue => exact .after fun text => pushed _ (.text _)
                  case isFalse =>
                      refine .after fun instruction => ?_
                      split
                      case isTrue => exact .after fun _ => pushed _ .aside
                      case isFalse =>
                          refine .after fun _ => .after fun _ => .bind (startTag_apart s _) ?_
                          rintro ⟨e, closed⟩ he
                          dsimp only
                          split
                          case isTrue => exact pushed _ he.node
                          case isFalse => exact ih _ _ he (List.forall_mem_cons.mpr ⟨htop, hbelow⟩)
      case h_3 => exact .after fun _ => .bind (reference_apart s) fun m hm => pushed m hm
      case h_4 => exact .after fun text => .after fun _ => pushed _ (.text _)

/-- **Every document is a tree.** No element of a document that is read, at any depth, has two attributes whose names
are one text. -/
theorem Element.isTree_of_read? {bytes : List UInt8} {root : Element} (h : read? bytes = some root) :
    root.IsTree := by
  have yields : Yields (fun e : Element => Node.Apart (.element e.name e.attributes e.content)) Xml.root := by
    unfold Xml.root
    refine .after fun _ => .after fun _ => .after fun _ => .after fun _ => .after fun _ => .after fun _ =>
      .after fun _ => .bind (startTag_apart _ _) ?_
    rintro ⟨e, closed⟩ he
    dsimp only
    split
    case' isTrue => refine .bind (.pure he.node) fun node hnode => ?_
    case' isFalse => refine .after fun _ => .bind (content_apart _ _ _ _ he (by simp)) fun node hnode => ?_
    -- either way an element is what is left
    all_goals
      refine .after fun _ => .after fun _ => ?_
      cases node with
      | element name attributes content => exact .pure hnode
      | text | aside => exact .malformed
  obtain ⟨cs, -, hcs⟩ := Option.bind_eq_some_iff.mp h
  exact isTree_of_apart (yields.of_runAll hcs)

/-- **No two attributes of one name.** Neither the root of a document that is read has two attributes of one
name, nor any element that stands directly in it. -/
theorem Element.distinct_of_read? {bytes : List UInt8} {root : Element} (h : read? bytes = some root) :
    Distinct root.attributes ∧ ∀ e ∈ Node.elements root.content, Distinct e.attributes := by
  have htree := isTree_of_read? h
  exact ⟨(htree root .root).distinct, fun e he => (htree e (.child .root he)).distinct⟩

end SqlMapper.Xml
