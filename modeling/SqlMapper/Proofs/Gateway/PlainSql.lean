import SqlMapper.Proofs.Gateway.PageWindow
import SqlMapper.Proofs.Gateway.Transaction
import SqlMapper.Proofs.Mapper.PlainBodies
import SqlMapper.Proofs.Registry.Serving
/-!
# SqlMapper.Proofs.Gateway.PlainSql

Plain SQL on its way from a mapping document to the database. A gateway serves its document through all its calls
(`Opened.serves`), so a statement that it finds is the one of its name in the document's table. If the body of that
statement holds no marks, a call sends it as it stands there, on one line and with its parameters beside it
(`plain_sql_passes_through`): there is no character in it that is looked at on the way.
-/

namespace SqlMapper.Gateway

open Mapper
open Xml (Node Element)
open Template (hasMark preparedText unifiedText)

variable {g g' : Gateway} {loading : Loading} {name : String} {s : Statement}

/-! ### Serving a document -/

/-- What the caller of a gateway is told is what the registry tells. -/
theorem resolve_registry (name : String) (g : Gateway) :
    ((resolve name).run.run g).2.registry = g.registry.obtain (.statement name) := by
  have hobtain : ((obtain (.statement name)).run g).2.registry = g.registry.obtain (.statement name) := rfl
  rw [resolve_run, ← hobtain]
  generalize (obtain (.statement name)).run g = asked
  obtain ⟨a, g'⟩ := asked
  rcases a with _ | (_ | _ | _ | _) <;> rfl

theorem resolve_eq_ok_iff : ((resolve name).run.run g).1 = .ok s ↔
    (g.registry.obtain (.statement name)).answerOf? .caller = some (.statement s) := by
  have hanswer : ((obtain (.statement name)).run g).1 = (g.registry.obtain (.statement name)).answerOf? .caller := rfl
  rw [resolve_run, ← hanswer]
  generalize (obtain (.statement name)).run g = asked
  obtain ⟨a, g'⟩ := asked
  rcases a with _ | (_ | s' | _ | _)
  case some.statement =>
      constructor
      · intro h
        cases h
        rfl
      · intro h
        cases h
        rfl
  all_goals exact ⟨fun h => (nomatch h), fun h => (nomatch h)⟩

/-- A statement that is found is the one of its name in the table. -/
theorem get?_of_resolve (h : g.registry.Serves loading) (hs : (resolve name).run.run g = (.ok s, g')) :
    ∃ table, loading.result = .ok table ∧ table.get? (.str name) = some s :=
  h.statement_of_obtain (resolve_eq_ok_iff.mp (congrArg Prod.fst hs))

theorem serves_resolve (h : g.registry.Serves loading) (name : String) :
    ((resolve name).run.run g).2.registry.Serves loading := by
  rw [resolve_registry]
  exact (h.obtain _).1

theorem serves_pageText (h : g.registry.Serves loading) (name : String) (params : Template.Params) :
    ((pageText name params).run.run g).2.registry.Serves loading := by
  have hresolve := serves_resolve h name
  rw [pageText_run]
  generalize (resolve name).run.run g = found at hresolve
  obtain ⟨s, g'⟩ := found
  cases s <;> exact hresolve

/-- A call of a gateway may ask for a statement, and leaves the registry alone otherwise. -/
theorem serves_step (h : g.registry.Serves loading) (step : Step) : (step.run.run g).2.registry.Serves loading := by
  cases step with
  | invoke name params cls =>
      have hresolve := serves_resolve h name
      change ((invoke name params cls).run.run g).2.registry.Serves loading
      obtain ⟨g', rfl, -, ⟨e, hfails⟩ | ⟨s, sql, -, -, hruns⟩⟩ := invoke_cases name params cls g
      · rwa [hfails]
      · rwa [hruns]
  | invokePage name p params =>
      have htext := serves_pageText h name params
      change ((invokePage name p params).run g).2.registry.Serves loading
      obtain ⟨g', rfl, -, ⟨e, hfails⟩ | ⟨sql, hruns⟩⟩ := invokePage_cases name p params g
      · rwa [hfails]
      · rwa [hruns, selectPage_run]
  | selectPage => exact h
  | execute sql type params cls =>
      change ((execute sql type params cls).run.run g).2.registry.Serves loading
      rwa [execute_run]
  | query sql type params cls =>
      change ((query sql type params cls).run.run g).2.registry.Serves loading
      rwa [query_run]

/-! ### New gateways -/

/-- What the templates of a new gateway are compiled with. -/
def settingOf (cls : EntityClass) (others : List EntityClass) (strict : Bool) : Setting where
  context := context (registered cls others)
  strict

/-- What the document of a path comes to in a new gateway. -/
def loadingOf (cls : EntityClass) (others : List EntityClass) (strict : Bool) (files : String → Option (List UInt8))
    (path : String) : Loading :=
  .ofFile (settingOf cls others strict) path (files path)

/-- A gateway that has been opened on the file of a path, whatever has been called since. -/
inductive Opened (path : String) (bytes : List UInt8) : Setting → Gateway → Prop
  | new (engine : Engine) (cls : EntityClass) (others : List EntityClass) {template : String} (limit : Option Limit)
      (strict : Bool) {files : String → Option (List UInt8)} (responses : List Response)
      (named : template ≠ "") (path_eq : Path.normal template = path) (file : files path = some bytes) :
      Opened path bytes (settingOf cls others strict)
        (.new engine cls others (some template) limit strict files responses)
  | step {setting : Setting} {g : Gateway} (opened : Opened path bytes setting g) (step : Step) :
      Opened path bytes setting (step.run.run g).2

section New

variable {engine : Engine} {cls : EntityClass} {others : List EntityClass} {template : String} {limit : Option Limit}
  {strict : Bool} {files : String → Option (List UInt8)} {responses : List Response}

theorem serves_new (hne : template ≠ "") :
    (Gateway.new engine cls others (some template) limit strict files responses).registry.Serves
      (loadingOf cls others strict files (Path.normal template)) :=
  .new hne limit (loadingOf cls others strict files) true

/-- **A gateway goes on serving its document**, whatever is called. -/
theorem Opened.serves {path : String} {bytes : List UInt8} {setting : Setting} (h : Opened path bytes setting g) :
    g.registry.Serves (.ofFile setting path (some bytes)) := by
  induction h with
  | new _ _ _ _ _ _ named path_eq file =>
      rw [← file, ← path_eq]
      exact serves_new named
  | step _ step ih => exact serves_step ih step

/-- A new gateway finds every statement of its document, unless it is in too much haste to wait for it. -/
theorem resolve_new (hne : template ≠ "") (patient : ∀ l, limit = some l → l.immediate = false) {table : Table}
    (hload : (loadingOf cls others strict files (Path.normal template)).result = .ok table)
    (hs : table.get? (.str name) = some s) : ∃ g',
      (resolve name).run.run (Gateway.new engine cls others (some template) limit strict files responses) =
        (.ok s, g') := by
  refine ⟨_, Prod.ext (resolve_eq_ok_iff.mpr ?_) rfl⟩
  refine (Registry.answerOf?_obtain_new hne patient (loadingOf cls others strict files) name).trans ?_
  simp only [Registry.verdict, hload, hs]

end New

/-! ### Plain SQL -/

variable {bytes : List UInt8} {root : Element}

/-- The statement that a gateway finds under a name is that of the item with this id. -/
theorem exists_item_of_resolve {setting : Setting} {path : String} (hread : Element.read? bytes = some root)
    (h : g.registry.Serves (.ofFile setting path (some bytes))) (hs : (resolve name).run.run g = (.ok s, g')) :
    ∃ i ∈ (Document.ofElement root).items, i.id = .text name ∧ Describes setting s i := by
  obtain ⟨table, hload, hget⟩ := get?_of_resolve h hs
  exact exists_item_of_get? (describes_of_ofFile hread hload) hget

/-- A call sends a statement that is written as one text as this text, if the engine takes statements of its type. -/
theorem sentTexts_of_verbatim (hs : (resolve name).run.run g = (.ok s, g')) {text : String}
    (verbatim : s.template.Verbatim text) (params : Template.Params) (cls : Option EntityClass) :
    ((invoke name params cls).run.run g).2.sentTexts =
      g.sentTexts ++ if g.engine.types.contains s.type then [(Sql.normalize text, params)] else [] := by
  have hsql : renderStatement s params = .ok text := by
    unfold renderStatement Statement.render
    rw [verbatim.render params]
  obtain ⟨hengine, hquiet⟩ := resolve_quiet name g
  rw [hs] at hengine hquiet
  rw [← hengine]
  split
  case isTrue supported => exact sentTexts_invoke hs hsql supported cls
  case isFalse unsupported =>
      have htype := TypeName.resolve_known s.type g'.engine.types.contains
      rw [if_neg unsupported] at htype
      rw [invoke_of_rendered hs hsql, Engine.execute_of_error htype, ← sentTexts_of_quiet hquiet, List.append_nil]

/-- **Plain SQL passes through.** Whatever a document is compiled with: an element whose body holds no marks compiles,
expects no parameters, and is written for any parameters as its body is, with its line ends unified; a trimmed body is
written whole, and the text of an element is trimmed. So a load never fails because of such a body. The table that a
load comes to has a statement of every element, and those without marks are written as their bodies are. A gateway that
has been opened on the document finds under a name the statement of the item with this id, and if its body holds no
marks, what a call sends is this body on one line, with the parameters as they were given, if the engine takes
statements of its type. -/
theorem plain_sql_passes_through (hread : Element.read? bytes = some root) (setting : Setting) (path : String) :
    (∀ b : String, Text.trim b.toList = b.toList → preparedText b = unifiedText b) ∧
    (∀ e ∈ Node.elements root.content, ∀ b, (Item.ofElement e).body.text = .ok b →
      (elementText e.content ≠ "" → Text.trim b.toList = b.toList) ∧
      (hasMark b.toList = false →
        (∃ t, compileBody setting (Item.ofElement e).body = .ok t ∧ t.Verbatim (preparedText b)) ∧
        ∀ before err, ¬ Flaw setting before (Item.ofElement e) (.compile err))) ∧
    (∀ table, (Loading.ofFile setting path (some bytes)).result = .ok table →
      (∀ e ∈ Node.elements root.content, isKind e.label = true → ∃ s ∈ table, Describes setting s (Item.ofElement e)) ∧
      ∀ s ∈ table, ∀ b, s.source.text = .ok b → hasMark b.toList = false →
        s.template.Verbatim (preparedText b)) ∧
    ∀ (g g' : Gateway) (name : String) (s : Statement), Opened path bytes setting g →
      (resolve name).run.run g = (.ok s, g') →
      (∃ i ∈ (Document.ofElement root).items, i.id = .text name ∧ Describes setting s i) ∧
      ∀ b params cls, s.source.text = .ok b → hasMark b.toList = false →
        ((invoke name params cls).run.run g).2.sentTexts = g.sentTexts ++
          if g.engine.types.contains s.type then [(Sql.normalize (preparedText b), params)] else [] := by
  refine ⟨fun b => Template.preparedText_of_trim, ?_, ?_, ?_⟩
  · intro e _ b hbody
    refine ⟨fun htext => trim_of_body htext hbody, fun plain => ?_⟩
    exact ⟨compileBody_of_not_hasMark hbody plain setting, fun _ _ => Flaw.not_compile_of_not_hasMark hbody plain⟩
  · intro table hload
    have partners := exists_partner (describes_of_ofFile hread hload)
    refine ⟨fun e he hkind => partners.2 _ (mem_items_of_mem_elements he hkind), fun s hs b hbody plain => ?_⟩
    obtain ⟨i, -, describes⟩ := partners.1 s hs
    exact describes.verbatim hbody plain
  · intro g g' name s opened hs
    obtain ⟨i, hi, hid, describes⟩ := exists_item_of_resolve hread opened.serves hs
    refine ⟨⟨i, hi, hid, describes⟩, fun b params cls hbody plain => ?_⟩
    exact sentTexts_of_verbatim hs (describes.verbatim hbody plain) params cls

/-- A statement that looks like a template here and there, but is none. -/
def remarks : String := "# \x7ba\x7d\nselect '\\' % :id --\"\x7d\x7d"

/-- A document with this statement. -/
def remarked : List UInt8 :=
  "<m><select id='all'># \x7ba\x7d\nselect '\\' % :id --\"\x7d\x7d</select></m>".toList.map fun c => c.toNat.toUInt8

/-- Its element. -/
def remarkedElement : Element where
  name := ⟨"", "select"⟩
  attributes := [(⟨"", "id"⟩, "all")]
  content := [.text remarks]

/-- Its root. -/
def remarkedRoot : Element where
  name := ⟨"", "m"⟩
  attributes := []
  content := [.element remarkedElement.name remarkedElement.attributes remarkedElement.content]

set_option maxRecDepth 2000 in
theorem read?_remarked : Element.read? remarked = some remarkedRoot := by cbv

theorem hasMark_remarks : hasMark remarks.toList = false := by decide

theorem trim_remarks : Text.trim remarks.toList = remarks.toList := by decide

theorem elementText_remarked : elementText remarkedElement.content = remarks := by
  have hdirect : Node.directText remarkedElement.content = remarks.toList := List.append_nil _
  rw [elementText, hdirect, trim_remarks, String.ofList_toList]

theorem elementValue_remarked :
    elementValue remarkedElement = .dict [(.str "id", .str "all"), (.str "_", .str remarks)] := by
  have hne : ¬ remarks.isEmpty = true := by decide
  have hattributes : attributeEntries remarkedElement.attributes = [("id", .str "all")] := by cbv
  rw [elementValue_of_attributes (List.cons_ne_nil _ _), mappingOf, hattributes, elementText_remarked, if_neg hne]
  -- the rest is about names only
  generalize remarks = text
  cbv

theorem body_remarked : (Item.ofElement remarkedElement).body.text = .ok remarks := by
  rw [Item.ofElement, Item.body, elementValue_remarked]
  generalize remarks = text
  cbv

theorem id_remarked : (Item.ofElement remarkedElement).id = .text "all" := by
  rw [Item.id_eq_text_iff, Item.ofElement, elementValue_remarked]
  generalize remarks = text
  exact ⟨by cbv, by decide⟩

theorem items_remarked : (Document.ofElement remarkedRoot).items = [Item.ofElement remarkedElement] := by
  have helements : Node.elements remarkedRoot.content = [remarkedElement] := rfl
  rw [ofElement_eq, children_nil, helements, gathered, List.foldl_cons, Item.ofElement, elementValue_remarked]
  generalize remarks = text
  cbv

/-- Nothing is wrong with the document, whatever it is compiled with. -/
theorem flawless_remarked (setting : Setting) : Flawless setting (Document.ofElement remarkedRoot).items := by
  rw [items_remarked]
  constructor
  case named => exact List.forall_mem_singleton.mpr ⟨"all", id_remarked⟩
  case distinct => exact List.pairwise_singleton _ _
  case compiles =>
      obtain ⟨t, ht, -⟩ := compileBody_of_not_hasMark body_remarked hasMark_remarks setting
      exact List.forall_mem_singleton.mpr ⟨t, ht⟩

/-- A new gateway with the document, and a database that answers once. -/
def remarkedGateway : Gateway :=
  .new {} ⟨"Row", .plain, []⟩ [] (some "mapper.xml") none false (fun _ => some remarked) [.rows [] (-1)]

theorem resolve_remarked : ∃ s g', (resolve "all").run.run remarkedGateway = (.ok s, g') := by
  obtain ⟨table, htable, describes⟩ := (flawless_remarked (settingOf ⟨"Row", .plain, []⟩ [] false)).ofDocument_eq
  have hread : (some remarked).bind Document.read? = some (Document.ofElement remarkedRoot) := by
    rw [Option.bind_some, Document.read?, read?_remarked]
    rfl
  have hload : (loadingOf ⟨"Row", .plain, []⟩ [] false (fun _ => some remarked)
      (Path.normal "mapper.xml")).result = .ok table := by
    rw [loadingOf, Loading.ofFile_result hread, htable]
  have hsome : (table.get? (.str "all")).isSome = true := by
    rw [get?_isSome_iff describes, items_remarked]
    exact ⟨_, List.mem_singleton_self _, id_remarked⟩
  obtain ⟨s, hs⟩ := Option.isSome_iff_exists.mp hsome
  exact ⟨s, resolve_new (by decide) (by simp) hload hs⟩

/-- The statement is sent as it stands in the document, on one line. -/
theorem plain_sql_passes_through_of_remarks : Element.read? remarked = some remarkedRoot ∧
    ((invoke "all" [(.str "id", .int 1)] none).run.run remarkedGateway).2.sentTexts =
      [(Sql.normalize (unifiedText remarks), [(.str "id", .int 1)])] := by
  obtain ⟨trimmed, -, -, calls⟩ := plain_sql_passes_through read?_remarked
    (settingOf ⟨"Row", .plain, []⟩ [] false) (Path.normal "mapper.xml")
  obtain ⟨s, g', hs⟩ := resolve_remarked
  have opened : Opened (Path.normal "mapper.xml") remarked (settingOf ⟨"Row", .plain, []⟩ [] false) remarkedGateway :=
    .new _ _ _ _ _ _ (by decide) rfl rfl
  have none_sent : remarkedGateway.sentTexts = [] := rfl
  obtain ⟨⟨i, hi, -, describes⟩, sent⟩ := calls remarkedGateway g' "all" s opened hs
  have hbody : s.source.text = .ok remarks := by
    rw [items_remarked] at hi
    rw [describes.source, List.mem_singleton.mp hi, body_remarked]
  have supported : remarkedGateway.engine.types.contains s.type = true := by
    cases s.type <;> rfl
  rw [sent remarks [(.str "id", .int 1)] none hbody hasMark_remarks, if_pos supported, trimmed remarks trim_remarks, none_sent]
  exact ⟨read?_remarked, List.nil_append _⟩

end SqlMapper.Gateway
