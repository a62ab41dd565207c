import SqlMapper.Proofs.Template.Parsing
/-!
# SqlMapper.Proofs.Template.BlockTags

Templates in which block tags stand, each a list of words, with texts between them (`Segment`). A reader sees the
words of the tags and the texts (`kinds_tokens_segments`), and of these the parser makes statements. Here are its
steps (`Parses`), up to the statements that write something if a variable is true (`Parses.statement_if`) and to the
clauses (`Parses.statement_clause`).
-/

namespace SqlMapper.Template

open SqlMapper.Text

/-! ### Tags as they are written -/

/-- The words of a tag, as they are written behind its opening mark. -/
def wordsWritten (words : List String) : List Char := words.flatMap fun w => ' ' :: w.toList

/-- A block tag, as it is written. -/
def tagWritten (words : List String) : List Char :=
  openBrace :: '%' :: (wordsWritten words ++ [' ', '%', closeBrace])

/-- A text, and the block tag behind it. -/
structure Segment where
  text : List Char
  words : List String

namespace Segment

/-- The segment as it is written. -/
def written (seg : Segment) : List Char := seg.text ++ tagWritten seg.words

/-- The kinds of its tokens. -/
def kinds (seg : Segment) : List TokenKind :=
  dataKinds seg.text ++ .blockBegin :: (seg.words.map .name ++ [.blockEnd])

/-- Does a reader see the text and the words? The text makes no mark, nor do the line ends in it change; the words are
names, and do not begin a section that is not read. -/
structure IsPlain (seg : Segment) : Prop where
  plain : hasMark seg.text = false
  apart : seg.text.getLast? ≠ some openBrace
  noReturn : '\r' ∉ seg.text
  ne : seg.words ≠ []
  names : ∀ w ∈ seg.words, isName w.toList = true
  notRaw : ∀ w, seg.words.head? = some w → w.toList.head? ≠ some 'r'

theorem isSound_of_mem_kinds {seg : Segment} {k : TokenKind} (h : k ∈ seg.kinds) : k.isSound = true := by
  simp only [kinds, List.mem_append, List.mem_cons, List.mem_map, List.not_mem_nil, or_false] at h
  rcases h with htext | rfl | ⟨w, -, rfl⟩ | rfl
  · exact isSound_of_mem_dataKinds htext
  · rfl
  · rfl
  · rfl

end Segment

/-! ### Reading the tokens -/

variable {total fuel line : Nat} {before : Char} {rest : List Char}

/-- A word has more characters than the steps that it takes to read it. -/
theorem length_wordsWritten {words : List String} (hwords : ∀ w ∈ words, isName w.toList = true) :
    2 * words.length ≤ (wordsWritten words).length := by
  induction words with
  | nil => simp
  | cons w words ih =>
      obtain ⟨hw, hrest⟩ := List.forall_mem_cons.mp hwords
      have hne : w.toList ≠ [] := by
        intro hnil
        rw [hnil] at hw
        cases hw
      have hlength := List.length_pos_iff.mpr hne
      have hmore := ih hrest
      simp only [wordsWritten, List.flatMap_cons, List.length_append, List.length_cons] at hmore ⊢
      omega

/-- A word of a tag is a token. -/
theorem tokensFrom_word {w : List Char} (hw : isName w = true) :
    tokensFrom total (fuel + 2) (.tag false [] before) line (' ' :: (w ++ ' ' :: rest)) =
      ⟨.name (String.ofList w), line⟩ ::
        tokensFrom total fuel (.tag false [] (w.getLastD ' ')) (line + countLines w) (' ' :: rest) := by
  have hblank : tokensFrom total (fuel + 2) (.tag false [] before) line (' ' :: (w ++ ' ' :: rest)) =
      tokensFrom total (fuel + 1) (.tag false [] ' ') line (w ++ ' ' :: rest) := by
    obtain ⟨c, cs, rfl, hstart⟩ := exists_cons_of_isName hw
    exact tokensFrom_blank (isBlank_of_isNameStart hstart)
  rw [hblank, tokensFrom_name hw (by decide)]

/-- What a block tag holds behind its opening mark. -/
theorem tokensFrom_words (total fuel line : Nat) (before : Char) {words : List String}
    (hwords : ∀ w ∈ words, isName w.toList = true) (rest : List Char) :
    ∃ line', (tokensFrom total (fuel + 2 * words.length + 2) (.tag false [] before) line
        (wordsWritten words ++ ' ' :: '%' :: closeBrace :: rest)).map (·.kind) =
      words.map .name ++ .blockEnd :: (tokensFrom total fuel .root line' rest).map (·.kind) := by
  induction words generalizing before line with
  | nil =>
      have hclose : tokensFrom total (fuel + 1) (.tag false [] ' ') line ('%' :: closeBrace :: rest) =
          ⟨.blockEnd, line⟩ :: tokensFrom total fuel .root line rest := tokensFrom_close
      refine ⟨line, ?_⟩
      change (tokensFrom total (fuel + 2) _ line (' ' :: '%' :: closeBrace :: rest)).map (·.kind) = _
      rw [tokensFrom_blank (by decide), hclose]
      rfl
  | cons w words ih =>
      obtain ⟨hw, hwords⟩ := List.forall_mem_cons.mp hwords
      obtain ⟨line', hrest⟩ := ih (line + countLines w.toList) (w.toList.getLastD ' ') hwords
      -- behind the word stands the blank before the next word, or before the closing mark
      have hnext : ∃ r, wordsWritten words ++ ' ' :: '%' :: closeBrace :: rest = ' ' :: r := by
        cases words with
        | nil => exact ⟨_, rfl⟩
        | cons _ _ => exact ⟨_, rfl⟩
      obtain ⟨r, hr⟩ := hnext
      have hfuel : fuel + 2 * (w :: words).length + 2 = fuel + 2 * words.length + 2 + 2 := by
        rw [List.length_cons]
        omega
      have hshape : wordsWritten (w :: words) ++ ' ' :: '%' :: closeBrace :: rest = ' ' :: (w.toList ++ ' ' :: r) := by
        rw [← hr]
        simp [wordsWritten]
      refine ⟨line', ?_⟩
      rw [hfuel, hshape, tokensFrom_word hw, ← hr, List.map_cons, hrest, String.ofList_toList]
      rfl

/-- No other tag is taken for the one that begins a section that is not read. -/
theorem wordTag?_raw_eq_none {words : List String} (hne : words ≠ []) (hwords : ∀ w ∈ words, isName w.toList = true)
    (hraw : ∀ w, words.head? = some w → w.toList.head? ≠ some 'r') (rest : List Char) :
    wordTag? "raw" false (wordsWritten words ++ rest) = none := by
  obtain ⟨w, words, rfl⟩ := List.exists_cons_of_ne_nil hne
  have hhead := hraw w rfl
  obtain ⟨c, cs, hcs, hbegins⟩ := exists_cons_of_isName (hwords w List.mem_cons_self)
  have hc : ('r' == c) = false := by
    rw [hcs] at hhead
    simpa using Ne.symm (fun h => hhead (congrArg some h))
  have hblank : isBlank ' ' = true := by decide
  have hdrop : dropBlanks (wordsWritten (w :: words) ++ rest) = c :: (cs ++ (wordsWritten words ++ rest)) := by
    simp [wordsWritten, hcs, dropBlanks, hblank, isBlank_of_isNameStart hbegins]
  have hstart : dropStart? "raw".toList (c :: (cs ++ (wordsWritten words ++ rest))) = none := by
    change dropStart? ('r' :: ['a', 'w']) _ = none
    rw [dropStart?, hc]
    rfl
  unfold wordTag?
  rw [hdrop, hstart]
  rfl

/-- A segment, and what is behind it. -/
theorem tokensFrom_segment (total fuel line : Nat) {seg : Segment} (h : seg.IsPlain) (rest : List Char) :
    ∃ line', (tokensFrom total (fuel + 2 * seg.words.length + 3) .root line (seg.written ++ rest)).map (·.kind) =
      seg.kinds ++ (tokensFrom total fuel .root line' rest).map (·.kind) := by
  obtain ⟨line', hwords⟩ := tokensFrom_words total fuel (line + countLines seg.text) ' ' h.names rest
  refine ⟨line', ?_⟩
  have hshape : seg.written ++ rest =
      seg.text ++ openBrace :: '%' :: (wordsWritten seg.words ++ ' ' :: '%' :: closeBrace :: rest) := by
    simp [Segment.written, tagWritten]
  obtain ⟨r, hr⟩ : ∃ r, wordsWritten seg.words ++ ' ' :: '%' :: closeBrace :: rest = ' ' :: r := by
    obtain ⟨w, words, hw⟩ := List.exists_cons_of_ne_nil h.ne
    rw [hw]
    exact ⟨_, rfl⟩
  have hsign : takeSign (wordsWritten seg.words ++ ' ' :: '%' :: closeBrace :: rest) =
      (none, wordsWritten seg.words ++ ' ' :: '%' :: closeBrace :: rest) := by
    rw [hr]
    rfl
  have hraw := wordTag?_raw_eq_none h.ne h.names h.notRaw (' ' :: '%' :: closeBrace :: rest)
  have hnote : '%' ≠ '#' := by decide
  have hblock : ('%' != '%') = false := by decide
  rw [hshape, tokensFrom]
  simp only [takeData_append h.plain h.apart (show isMark '%' = true by decide), hsign, reduceCtorEq, if_false,
    if_neg hnote, if_true, hraw, hblock, Bool.false_eq_true, List.map_append, map_kind_dataToken, List.map_cons]
  rw [hwords]
  simp [Segment.kinds]

/-- A template that ends in a tag. -/
def segmentsWritten (segs : List Segment) : List Char := segs.flatMap Segment.written

theorem kinds_tokensFrom_segments {segs : List Segment} (h : ∀ seg ∈ segs, seg.IsPlain) (total : Nat)
    {fuel : Nat} (line : Nat) (hfuel : (segmentsWritten segs).length < fuel) :
    (tokensFrom total fuel .root line (segmentsWritten segs)).map (·.kind) = segs.flatMap Segment.kinds := by
  induction segs generalizing fuel line with
  | nil =>
      obtain ⟨fuel, rfl⟩ : ∃ n, fuel = n + 1 := ⟨fuel - 1, by omega⟩
      exact tokensFrom_last rfl
  | cons seg segs ih =>
      obtain ⟨hseg, hsegs⟩ := List.forall_mem_cons.mp h
      have hwords := length_wordsWritten hseg.names
      have htag : 2 * seg.words.length + 3 ≤ seg.written.length := by
        simp only [Segment.written, tagWritten, List.length_append, List.length_cons, List.length_nil]
        omega
      simp only [segmentsWritten, List.flatMap_cons, List.length_append] at hfuel ih ⊢
      obtain ⟨fuel, rfl⟩ : ∃ n, fuel = n + 2 * seg.words.length + 3 :=
        ⟨fuel - (2 * seg.words.length + 3), by omega⟩
      obtain ⟨line', hread⟩ := tokensFrom_segment total fuel line hseg (segs.flatMap Segment.written)
      rw [hread, ih hsegs line' (by omega)]

/-- The text of no name, and no mark, holds a carriage return. -/
theorem Segment.IsPlain.not_mem_written {seg : Segment} (h : seg.IsPlain) : '\r' ∉ seg.written := by
  have hwords : '\r' ∉ wordsWritten seg.words := by
    intro hmem
    obtain ⟨w, hw, hc⟩ := List.mem_flatMap.mp hmem
    rcases List.mem_cons.mp hc with hc | hc
    · exact absurd hc (by decide)
    · exact absurd (isNameInside_of_isName (h.names w hw) hc) (by decide)
  intro hmem
  simp only [Segment.written, tagWritten, List.mem_append, List.mem_cons, List.not_mem_nil, or_false] at hmem
  rcases hmem with htext | hopen | hmark | hname | hblank | hmark | hclose
  · exact h.noReturn htext
  · exact absurd hopen (by decide)
  · exact absurd hmark (by decide)
  · exact hwords hname
  · exact absurd hblank (by decide)
  · exact absurd hmark (by decide)
  · exact absurd hclose (by decide)

theorem prepare_segmentsWritten {segs : List Segment} (h : ∀ seg ∈ segs, seg.IsPlain) :
    prepare (segmentsWritten segs) = segmentsWritten segs := by
  have hunify : unifyLineEnds (segmentsWritten segs) = segmentsWritten segs := by
    refine unifyLineEnds_of_not_mem fun hmem => ?_
    obtain ⟨seg, hseg, hc⟩ := List.mem_flatMap.mp hmem
    exact (h seg hseg).not_mem_written hc
  rw [prepare, hunify]
  clear hunify h
  induction segs with
  | nil => rfl
  | cons seg segs ih =>
      have hend : seg.written.getLast? = some closeBrace := by
        have hshape : seg.written =
            (seg.text ++ openBrace :: '%' :: (wordsWritten seg.words ++ [' ', '%'])) ++ [closeBrace] := by
          simp [Segment.written, tagWritten]
        rw [hshape, List.getLast?_concat]
      rw [segmentsWritten, List.flatMap_cons, dropLastLineEnd_append (by rw [hend]; decide)]
      exact congrArg (seg.written ++ ·) ih

/-- **The tokens of texts and tags.** -/
theorem kinds_tokens_segments {segs : List Segment} (h : ∀ seg ∈ segs, seg.IsPlain) :
    (tokens (String.ofList (segmentsWritten segs))).map (·.kind) = segs.flatMap Segment.kinds := by
  unfold tokens
  rw [String.toList_ofList, prepare_segmentsWritten h]
  exact kinds_tokensFrom_segments h _ 1 (Nat.lt_succ_self _)

/-! ### Steps of the parser -/

/-- The word of the tag that begins a clause. -/
def ClauseKind.openWord : ClauseKind → String
  | conditions => "where"
  | assignments => "setclause"

/-- The word of the tag that ends it. -/
def ClauseKind.closeWord : ClauseKind → String
  | conditions => "endwhere"
  | assignments => "endsetclause"

/-- A parser stands before tokens of some kinds, none of which is a fault. -/
structure ReaderState.Sees (s : ReaderState) (ks : List TokenKind) : Prop where
  kinds : s.tokens.map (·.kind) = ks
  sound : ∀ k ∈ ks, k.isSound = true

/-- What a step of the parser does: standing before tokens of some kinds it gives a result, and then it stands before
tokens of other kinds. -/
def Parses {α : Type} (m : Reader α) (ks : List TokenKind) (a : α) (ks' : List TokenKind) : Prop :=
  ∀ s : ReaderState, s.Sees ks → ∃ s', m.run s = .ok (a, s') ∧ s'.Sees ks'

section Steps

open Reader

variable {s : ReaderState} {k : TokenKind} {ks : List TokenKind}

/-- Moving on. -/
theorem ReaderState.Sees.advance (h : s.Sees (k :: ks)) :
    ∃ t s', advance.run s = .ok (t, s') ∧ s'.Sees ks ∧ t.kind = k := by
  obtain ⟨-, hsound⟩ := List.forall_mem_cons.mp h.sound
  obtain ⟨t, s', hrun, hkinds, -, ht⟩ := run_advance h.kinds hsound
  exact ⟨t, s', hrun, ⟨hkinds, hsound⟩, ht⟩

end Steps

namespace Parses

open Reader

variable {α β : Type} {m : Reader α} {a : α} {b : β} {ks ks' ks'' : List TokenKind} {k : TokenKind}
  {p : TokenKind → Bool}

theorem pure (a : α) : Parses (Pure.pure a) ks a ks := fun s hs => ⟨s, rfl, hs⟩

theorem bind {f : α → Reader β} (h : Parses m ks a ks') (hf : Parses (f a) ks' b ks'') :
    Parses (m >>= f) ks b ks'' := by
  intro s hs
  obtain ⟨s₁, hrun, hs₁⟩ := h s hs
  obtain ⟨s₂, hrest, hs₂⟩ := hf s₁ hs₁
  exact ⟨s₂, (run_bind_ok hrun).trans hrest, hs₂⟩

theorem current_bind {f : Token → Reader β} (h : ∀ t, t.kind = k → Parses (f t) (k :: ks) b ks') :
    Parses (current >>= f) (k :: ks) b ks' := by
  intro s hs
  rw [run_bind_ok (run_current s)]
  exact h _ (kind_eq hs.kinds) s hs

theorem kind_bind {f : TokenKind → Reader β} (h : Parses (f k) (k :: ks) b ks') :
    Parses (kind >>= f) (k :: ks) b ks' := by
  intro s hs
  rw [run_bind_ok (run_kind s), kind_eq hs.kinds]
  exact h s hs

theorem kind_bind_eof {f : TokenKind → Reader β} (h : Parses (f .eof) [] b ks') : Parses (kind >>= f) [] b ks' := by
  intro s hs
  rw [run_bind_ok (run_kind s), kind_eq_eof hs.kinds]
  exact h s hs

theorem bound_bind {f : Nat → Reader β} (h : Parses (f (ks.length + 1)) ks b ks') : Parses (bound >>= f) ks b ks' := by
  intro s hs
  have hlength : s.tokens.length = ks.length := by rw [← hs.kinds, List.length_map]
  rw [run_bind_ok (run_bound s), hlength]
  exact h s hs

theorem advance_bind {f : Token → Reader β} (h : ∀ t, t.kind = k → Parses (f t) ks b ks') :
    Parses (advance >>= f) (k :: ks) b ks' := by
  intro s hs
  obtain ⟨t, s₁, hmoves, hs₁, ht⟩ := hs.advance
  rw [run_bind_ok hmoves]
  exact h t ht s₁ hs₁

theorem skipIf_bind {f : Bool → Reader β} (hp : p k = false) (h : Parses (f false) (k :: ks) b ks') :
    Parses (skipIf p >>= f) (k :: ks) b ks' := by
  intro s hs
  rw [run_bind_ok (run_skipIf_of_not (by rwa [kind_eq hs.kinds]))]
  exact h s hs

theorem expect_bind {f : Token → Reader β} {title : String} (hp : p k = true)
    (h : ∀ t, t.kind = k → Parses (f t) ks b ks') : Parses (expect p title >>= f) (k :: ks) b ks' := by
  intro s hs
  obtain ⟨t, s₁, hmoves, hs₁, ht⟩ := hs.advance
  rw [run_bind_ok (run_expect (by rwa [kind_eq hs.kinds]) hmoves)]
  exact h t ht s₁ hs₁

/-- Which tags are open matters to messages only. -/
theorem withinTag (h : Parses m ks a ks') (tag : String) : Parses (withinTag tag m) ks a ks' := by
  intro s hs
  obtain ⟨s₁, hrun, hs₁⟩ := h { s with tags := tag :: s.tags } ⟨hs.kinds, hs.sound⟩
  have hopened : (modify fun s : ReaderState => { s with tags := tag :: s.tags } : Reader Unit).run s =
      .ok ((), { s with tags := tag :: s.tags }) := rfl
  refine ⟨{ s₁ with tags := s₁.tags.tail }, ?_, ⟨hs₁.kinds, hs₁.sound⟩⟩
  exact (run_bind_ok hopened).trans ((run_bind_ok hrun).trans rfl)

/-- So does which end tags are waited for. -/
theorem awaiting (h : Parses m ks a ks') (ends : List String) : Parses (awaiting ends m) ks a ks' := by
  intro s hs
  obtain ⟨s₁, hrun, hs₁⟩ := h { s with awaited := ends :: s.awaited } ⟨hs.kinds, hs.sound⟩
  have hopened : (modify fun s : ReaderState => { s with awaited := ends :: s.awaited } : Reader Unit).run s =
      .ok ((), { s with awaited := ends :: s.awaited }) := rfl
  refine ⟨{ s₁ with awaited := s₁.awaited.tail }, ?_, ⟨hs₁.kinds, hs₁.sound⟩⟩
  exact (run_bind_ok hopened).trans ((run_bind_ok hrun).trans rfl)

/-- A variable at the end of a tag is an expression. -/
theorem name {rules : Rules} {x : String} (hx : isVariable x = true) (withChoice : Bool) :
    Parses (tupleOf (expression rules withChoice) false) (.name x :: .blockEnd :: ks) (.var x) (.blockEnd :: ks) := by
  intro s hs
  obtain ⟨t, s₁, hmoves, hs₁, -⟩ := hs.advance
  have onName : AtName s s₁ x := ⟨kind_eq hs.kinds, ⟨t, hmoves⟩, .inr (kind_eq hs₁.kinds), hx⟩
  exact ⟨s₁, onName.tupleOf withChoice, hs₁⟩

/-! ### Block tags -/

variable {r : StmtRules} {body done : List Stmt} {pieces : List (Piece String)} {ends : Option (List String)}
  {es : List String} {stmt : Stmt} {x last : String} {n : Nat}

theorem blockEnd : Parses expectBlockEnd (.blockEnd :: ks) () ks := expect_bind rfl fun _ _ => .pure ()

theorem blockUpTo (hbody : Parses (r.body (some es)) ks body (k :: ks')) (hk : k ≠ .eof) :
    Parses (r.blockUpTo es) (.blockEnd :: ks) body (k :: ks') := by
  unfold StmtRules.blockUpTo
  refine skipIf_bind rfl (blockEnd.bind (hbody.bind (current_bind fun t ht => ?_)))
  rw [ht]
  cases k with
  | eof => exact absurd rfl hk
  | _ => exact .pure body

theorem blockThrough (hbody : Parses (r.body (some [last])) ks body (.name last :: ks')) :
    Parses (r.blockThrough last) (.blockEnd :: ks) body ks' := by
  unfold StmtRules.blockThrough
  exact (blockUpTo hbody nofun).bind (advance_bind fun _ _ => .pure body)

/-- A body that is written if a variable is true. -/
theorem statement_if (hx : isVariable x = true)
    (hbody : Parses (r.body (some ["elif", "else", "endif"])) ks body (.name "endif" :: ks')) :
    Parses (statement r) (.name "if" :: .name x :: .blockEnd :: ks) (.choice (.var x) body [] []) ks' := by
  have hbranches : Parses (branches r ((.name x :: .blockEnd :: ks).length + 1) [])
      (.name x :: .blockEnd :: ks) ([(.var x, body)], []) ks' := by
    unfold branches
    refine (name hx false).bind ((blockUpTo hbody nofun).bind (advance_bind fun t ht => ?_))
    rw [ht]
    exact .pure _
  have htag : Parses (ifTag r) (.name "if" :: .name x :: .blockEnd :: ks) (.choice (.var x) body [] []) ks' := by
    unfold ifTag
    exact expect_bind rfl fun _ _ => bound_bind (hbranches.bind (.pure _))
  unfold statement
  refine current_bind fun t ht => ?_
  rw [ht]
  exact htag.withinTag "if"

/-- A clause, whose line is that of the token it begins with. -/
theorem statement_clause (kind : ClauseKind)
    (hbody : Parses (r.body (some [kind.closeWord])) ks body (.name kind.closeWord :: ks')) {s : ReaderState}
    (hs : s.Sees (.name kind.openWord :: .blockEnd :: ks)) :
    ∃ line s', (statement r).run s = .ok (.clause kind body line, s') ∧ s'.Sees ks' := by
  let line := (s.tokens.headD ⟨.eof, s.line⟩).line
  have hclause : Parses (do let _ ← advance; return .clause kind (← r.blockThrough kind.closeWord) line : Reader Stmt)
      (.name kind.openWord :: .blockEnd :: ks) (.clause kind body line) ks' :=
    advance_bind fun _ _ => (blockThrough hbody).bind (.pure _)
  obtain ⟨s', hrun, hs'⟩ := hclause.withinTag kind.openWord s hs
  refine ⟨line, s', ?_, hs'⟩
  have hkind : (s.tokens.headD ⟨.eof, s.line⟩).kind = .name kind.openWord := kind_eq hs.kinds
  unfold statement
  rw [run_bind_ok (run_current s), hkind]
  cases kind with
  | conditions => exact hrun
  | assignments => exact hrun

/-! ### Statements in a row -/

/-- The statements so far, when pieces have been read behind them. -/
def flushed (pieces : List (Piece String)) (done : List Stmt) : List Stmt :=
  if pieces.isEmpty then done else .output pieces.reverse :: done

theorem statementsFrom_eof : Parses (statementsFrom r ends (n + 1) pieces done) [] (flushed pieces done).reverse [] :=
  kind_bind_eof (.pure _)

theorem statementsFrom_data {d : String} (h : Parses (statementsFrom r ends n (.data d :: pieces) done) ks body ks') :
    Parses (statementsFrom r ends (n + 1) pieces done) (.data d :: ks) body ks' :=
  kind_bind (advance_bind fun _ _ => h)

/-- The tag at the end of a body. -/
theorem statementsFrom_end (hlast : last ∈ es) :
    Parses (statementsFrom r (some es) (n + 1) pieces done) (.blockBegin :: .name last :: ks)
      (flushed pieces done).reverse (.name last :: ks) := by
  refine kind_bind (advance_bind fun _ _ => kind_bind ?_)
  have hends : ((some es).any fun es => es.any fun e => (TokenKind.name last).isName e) = true := by
    simpa [TokenKind.isName] using hlast
  rw [if_pos hends]
  exact .pure _

/-- A tag within a body. -/
theorem statementsFrom_statement (hends : (ends.any fun es => es.any fun e => k.isName e) = false)
    (hstmt : Parses (statement r) (k :: ks) stmt (.blockEnd :: ks'))
    (h : Parses (statementsFrom r ends n [] (stmt :: flushed pieces done)) ks' body ks'') :
    Parses (statementsFrom r ends (n + 1) pieces done) (.blockBegin :: k :: ks) body ks'' := by
  refine kind_bind (advance_bind fun _ _ => kind_bind ?_)
  rw [hends]
  exact hstmt.bind (blockEnd.bind h)

/-- A text up to the tag at the end of a body. -/
theorem body_text {rules : Rules} {d : String} (hlast : last ∈ es) :
    Parses (Body.ofDepth rules (n + 1) (some es)) (.data d :: .blockBegin :: .name last :: ks)
      [.output [.data d]] (.name last :: ks) :=
  bound_bind (awaiting (statementsFrom_data (statementsFrom_end hlast)) es)

end Parses

end SqlMapper.Template
