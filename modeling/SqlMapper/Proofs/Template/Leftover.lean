import Mathlib
import SqlMapper.Template.Folding
/-!
# SqlMapper.Proofs.Template.Leftover

Which names are lost when the constants of a template are worked out (`lostIn`): those that an expression reads
and what is left of it does not. All other names are read by the same expressions as before, so they are
mentioned in the same order (`find?_foldBody`).
-/

namespace SqlMapper.Template

/-! ### Names that are lost -/

/-- The variables that a piece of output reads. -/
def Piece.reads {ν : Type} : Piece ν → List ν
  | .data _ => []
  | .print e => e.reads

/-- The names that are read before, and no longer after. -/
def gone (before after : List String) : List String := before.filter fun x => !after.contains x

variable (strict : Bool)

/-- The names that an expression loses when its constants are worked out. -/
def Expr.lost (e : Expr String) : List String := gone e.reads (e.folded strict).reads

/-- The names that a piece of output loses. -/
def Piece.lost (p : Piece String) : List String := gone p.reads (p.folded strict).reads

mutual

/-- The names that the expressions of a statement lose. -/
def Stmt.lost : Stmt → List String
  | .output pieces => pieces.flatMap (Piece.lost strict)
  | .choice test body more otherwise => test.lost strict ++ lostIn body ++ lostInBranches more ++ lostIn otherwise
  | .loop _ source test _ body otherwise _ =>
    source.lost strict ++ test.toList.flatMap (Expr.lost strict) ++ lostIn body ++ lostIn otherwise
  | .assign _ e => e.lost strict
  | .capture _ filter body => filter.toList.flatMap (Expr.lost strict) ++ lostIn body
  | .withVars bindings body => bindings.flatMap (fun b => b.2.lost strict) ++ lostIn body
  | .define _ _ defaults body _ => defaults.flatMap (Expr.lost strict) ++ lostIn body
  | .callBlock _ defaults call body _ => defaults.flatMap (Expr.lost strict) ++ call.lost strict ++ lostIn body
  | .clause _ body _ => lostIn body
  | .filterBlock filter body => filter.lost strict ++ lostIn body
  | .escaping value body => value.lost strict ++ lostIn body
  | .block _ _ _ body _ => lostIn body
  | .foreign _ template _ => template.lost strict

/-- The names that the expressions of statements in a row lose. -/
def lostIn : List Stmt → List String
  | [] => []
  | s :: ss => s.lost ++ lostIn ss

/-- The names that the expressions of further branches of a choice lose. -/
def lostInBranches : List (Expr String × List Stmt) → List String
  | [] => []
  | (test, body) :: more => test.lost strict ++ lostIn body ++ lostInBranches more

end

/-! ### What is left reads nothing new -/

section Reads

variable {strict} {x : String} {b : Bool}

mutual

theorem Expr.mem_walk_of_fold (how : Folding) (e : Expr String) (inChoice : Bool)
    (h : (b, .var x) ∈ (e.fold strict how).walk (fun _ => false) inChoice) :
    (b, .var x) ∈ e.walk (fun _ => false) inChoice := by
  unfold Expr.fold at h
  generalize how.ofParts strict e = parts at h
  cases e
  case lit => simp [Expr.walk] at h
  case var y =>
      dsimp only at h
      split at h
      · simp [Expr.walk] at h
      · exact h
  -- no other expression is a variable itself, so the variable stands in one of its parts
  all_goals
    simp only [Expr.walk, Bool.false_eq_true, if_false, List.mem_cons, Prod.mk.injEq, reduceCtorEq, and_false,
      false_or, List.mem_append] at h ⊢
  case tuple xs | list xs | concat xs => exact mem_walkAll_of_fold parts xs inChoice h
  case dict es => exact mem_walkEntries_of_fold parts es inChoice h
  case choice test yes no line =>
      exact h.imp (Or.imp (yes.mem_walk_of_fold parts true) (test.mem_walk_of_fold parts true))
        (mem_walkOption_of_fold parts no true)
  case unary op e => exact e.mem_walk_of_fold parts inChoice h
  case arith op l r | and l r | or l r | item l r =>
      exact h.imp (l.mem_walk_of_fold parts inChoice) (r.mem_walk_of_fold parts inChoice)
  case compare l rest =>
      exact h.imp (l.mem_walk_of_fold parts inChoice) (mem_walkCompared_of_fold parts rest inChoice)
  case slice start stop step =>
      exact h.imp (Or.imp (mem_walkOption_of_fold parts start inChoice) (mem_walkOption_of_fold parts stop inChoice))
        (mem_walkOption_of_fold parts step inChoice)
  case call f args => exact h.imp (f.mem_walk_of_fold parts inChoice) (mem_walkArgs_of_fold parts args inChoice)
  case filter name e args line =>
      exact h.imp (mem_walkOption_of_fold parts e inChoice) (mem_walkArgs_of_fold parts args inChoice)
  case test name e args line =>
      exact h.imp (e.mem_walk_of_fold parts inChoice) (mem_walkArgs_of_fold parts args inChoice)
  -- an attribute, which is no name for a case
  next e name => exact e.mem_walk_of_fold parts inChoice h

theorem mem_walkAll_of_fold (how : Folding) (xs : List (Expr String)) (inChoice : Bool)
    (h : (b, .var x) ∈ walkAll (fun _ => false) inChoice (foldAll strict how xs)) :
    (b, .var x) ∈ walkAll (fun _ => false) inChoice xs := by
  cases xs with
  | nil => exact h
  | cons e xs =>
      simp only [foldAll, walkAll, List.mem_append] at h ⊢
      exact h.imp (e.mem_walk_of_fold how inChoice) (mem_walkAll_of_fold how xs inChoice)

theorem mem_walkEntries_of_fold (how : Folding) (es : List (Expr String × Expr String)) (inChoice : Bool)
    (h : (b, .var x) ∈ walkEntries (fun _ => false) inChoice (foldEntries strict how es)) :
    (b, .var x) ∈ walkEntries (fun _ => false) inChoice es := by
  cases es with
  | nil => exact h
  | cons entry es =>
      obtain ⟨k, e⟩ := entry
      simp only [foldEntries, walkEntries, List.mem_append] at h ⊢
      exact h.imp (Or.imp (k.mem_walk_of_fold how inChoice) (e.mem_walk_of_fold how inChoice))
        (mem_walkEntries_of_fold how es inChoice)

theorem mem_walkCompared_of_fold (how : Folding) (rest : List (CompareOp × Expr String)) (inChoice : Bool)
    (h : (b, .var x) ∈ walkCompared (fun _ => false) inChoice (foldCompared strict how rest)) :
    (b, .var x) ∈ walkCompared (fun _ => false) inChoice rest := by
  cases rest with
  | nil => exact h
  | cons p rest =>
      obtain ⟨op, e⟩ := p
      simp only [foldCompared, walkCompared, List.mem_append] at h ⊢
      exact h.imp (e.mem_walk_of_fold how inChoice) (mem_walkCompared_of_fold how rest inChoice)

theorem mem_walkArgs_of_fold (how : Folding) (args : List (Passing × Expr String)) (inChoice : Bool)
    (h : (b, .var x) ∈ walkArgs (fun _ => false) inChoice (foldArgs strict how args)) :
    (b, .var x) ∈ walkArgs (fun _ => false) inChoice args := by
  cases args with
  | nil => exact h
  | cons p args =>
      obtain ⟨passing, e⟩ := p
      simp only [foldArgs, walkArgs, List.mem_append] at h ⊢
      exact h.imp (e.mem_walk_of_fold how inChoice) (mem_walkArgs_of_fold how args inChoice)

theorem mem_walkOption_of_fold (how : Folding) (e? : Option (Expr String)) (inChoice : Bool)
    (h : (b, .var x) ∈ walkOption (fun _ => false) inChoice (foldOption strict how e?)) :
    (b, .var x) ∈ walkOption (fun _ => false) inChoice e? := by
  cases e? with
  | none => exact h
  | some e => exact e.mem_walk_of_fold how inChoice h

end

theorem Expr.mem_reads_iff {e : Expr String} :
    x ∈ e.reads ↔ ∃ b, (b, .var x) ∈ e.walk (fun _ => false) false := by
  unfold Expr.reads
  rw [List.mem_filterMap]
  constructor
  · rintro ⟨⟨b, e'⟩, hmem, hvar⟩
    cases e' with
    | var y =>
        cases hvar
        exact ⟨b, hmem⟩
    | _ => cases hvar
  · rintro ⟨b, hmem⟩
    exact ⟨_, hmem, rfl⟩

/-- What is left of an expression reads no name that the expression does not read. -/
theorem Expr.mem_reads_of_folded {e : Expr String} (h : x ∈ (e.folded strict).reads) : x ∈ e.reads := by
  obtain ⟨b, hmem⟩ := Expr.mem_reads_iff.mp h
  exact Expr.mem_reads_iff.mpr ⟨b, e.mem_walk_of_fold .whole false hmem⟩

theorem Piece.mem_reads_of_folded {p : Piece String} (h : x ∈ (p.folded strict).reads) : x ∈ p.reads := by
  cases p with
  | data s => exact h
  | print e =>
      rw [Piece.folded] at h
      split at h
      · exact h
      · exact Expr.mem_reads_of_folded h

theorem mem_iff_of_not_gone {before after : List String} (hsub : x ∈ after → x ∈ before)
    (h : x ∉ gone before after) : x ∈ after ↔ x ∈ before := by
  refine ⟨hsub, fun hbefore => ?_⟩
  by_contra hafter
  exact h (List.mem_filter.mpr ⟨hbefore, by simpa using hafter⟩)

/-- A name that an expression does not lose is read as before. -/
theorem Expr.mem_reads_folded {e : Expr String} (h : x ∉ e.lost strict) :
    x ∈ (e.folded strict).reads ↔ x ∈ e.reads :=
  mem_iff_of_not_gone Expr.mem_reads_of_folded h

theorem Piece.mem_reads_folded {p : Piece String} (h : x ∉ p.lost strict) :
    x ∈ (p.folded strict).reads ↔ x ∈ p.reads :=
  mem_iff_of_not_gone Piece.mem_reads_of_folded h

end Reads

/-! ### What is left is mentioned in the same order -/

section Mentions

variable {strict} {x : String} {p : Mention → Bool}

/-- The first mention in an expression that counts, if only reading one name does. -/
theorem find?_map_read (hp : ∀ y, p (.read y) = true → y = x) (names : List String) :
    (names.map Mention.read).find? p = if x ∈ names ∧ p (.read x) = true then some (.read x) else none := by
  induction names with
  | nil => simp
  | cons y names ih =>
      rw [List.map_cons, List.find?_cons]
      cases hy : p (.read y) with
      | true =>
          cases hp y hy
          simp [hy]
      | false =>
          rw [ih]
          have hne : p (.read x) = true → x ≠ y := fun hx hxy => by simp [← hxy, hx] at hy
          by_cases hx : p (.read x) = true
          · simp [hx, hne hx]
          · simp [hx]

/-- The first mention that counts in one list of mentions is that in another. -/
theorem find?_flatMap_congr {α : Type} {f g : α → List Mention} {as : List α}
    (h : ∀ a ∈ as, (f a).find? p = (g a).find? p) : (as.flatMap f).find? p = (as.flatMap g).find? p := by
  induction as with
  | nil => rfl
  | cons a as ih =>
      rw [List.flatMap_cons, List.flatMap_cons, List.find?_append, List.find?_append, h a List.mem_cons_self,
        ih fun b hb => h b (List.mem_cons_of_mem _ hb)]

theorem Expr.find?_folded (hp : ∀ y, p (.read y) = true → y = x) {e : Expr String} (h : x ∉ e.lost strict) :
    (e.folded strict).mentions.find? p = e.mentions.find? p := by
  unfold Expr.mentions
  rw [find?_map_read hp, find?_map_read hp]
  simp only [Expr.mem_reads_folded h]

theorem Piece.find?_folded (hp : ∀ y, p (.read y) = true → y = x) {q : Piece String} (h : x ∉ q.lost strict) :
    ((q.folded strict).reads.map Mention.read).find? p = (q.reads.map Mention.read).find? p := by
  rw [find?_map_read hp, find?_map_read hp]
  simp only [Piece.mem_reads_folded h]

theorem find?_folded_of_all (hp : ∀ y, p (.read y) = true → y = x) {es : List (Expr String)}
    (h : x ∉ es.flatMap (Expr.lost strict)) :
    ((es.map (Expr.folded strict)).flatMap Expr.mentions).find? p = (es.flatMap Expr.mentions).find? p := by
  rw [List.flatMap_map]
  exact find?_flatMap_congr fun e he => Expr.find?_folded hp fun hx => h (List.mem_flatMap.mpr ⟨e, he, hx⟩)

theorem find?_folded_of_option (hp : ∀ y, p (.read y) = true → y = x) {e? : Option (Expr String)}
    (h : x ∉ e?.toList.flatMap (Expr.lost strict)) :
    (((e?.map (Expr.folded strict)).map Expr.mentions).getD []).find? p =
      ((e?.map Expr.mentions).getD []).find? p := by
  cases e? with
  | none => rfl
  | some e => exact Expr.find?_folded hp (by simpa using h)

theorem find?_folded_of_bindings (hp : ∀ y, p (.read y) = true → y = x) {bs : List (Target String × Expr String)}
    (h : x ∉ bs.flatMap fun b => b.2.lost strict) :
    (bs.flatMap fun b => (b.2.folded strict).mentions).find? p =
      (bs.flatMap fun b => b.2.mentions).find? p :=
  find?_flatMap_congr fun b hb => Expr.find?_folded hp fun hx => h (List.mem_flatMap.mpr ⟨b, hb, hx⟩)

mutual

theorem Stmt.find?_folded (hp : ∀ y, p (.read y) = true → y = x) (insideBlocks : Bool) (s : Stmt)
    (h : x ∉ s.lost strict) :
    ((s.folded strict).mentions insideBlocks).find? p = (s.mentions insideBlocks).find? p := by
  cases s with
  | output pieces =>
      have hmentions : ∀ qs : List (Piece String),
          (Stmt.output qs).mentions insideBlocks = qs.flatMap fun q => q.reads.map .read := by
        intro qs
        rw [Stmt.mentions]
        exact List.flatMap_congr fun q _ => by cases q <;> rfl
      rw [Stmt.folded, hmentions, hmentions, List.flatMap_map]
      exact find?_flatMap_congr fun q hq =>
        Piece.find?_folded hp fun hx => h (List.mem_flatMap.mpr ⟨q, hq, hx⟩)
  | choice test body more otherwise =>
      simp only [Stmt.lost, List.mem_append, not_or] at h
      obtain ⟨⟨⟨htest, hbody⟩, hmore⟩, hotherwise⟩ := h
      simp only [Stmt.folded, Stmt.mentions, List.find?_append, Expr.find?_folded hp htest,
        find?_foldBody hp insideBlocks body hbody, find?_foldBranches hp insideBlocks more hmore,
        find?_foldBody hp insideBlocks otherwise hotherwise]
  | loop target source test recursive body otherwise line =>
      simp only [Stmt.lost, List.mem_append, not_or] at h
      obtain ⟨⟨⟨hsource, htest⟩, hbody⟩, hotherwise⟩ := h
      simp only [Stmt.folded, Stmt.mentions, List.find?_append, Expr.find?_folded hp hsource,
        find?_folded_of_option hp htest, find?_foldBody hp insideBlocks body hbody,
        find?_foldBody hp insideBlocks otherwise hotherwise]
  | assign target e =>
      simp only [Stmt.folded, Stmt.mentions, List.find?_append, Expr.find?_folded hp h]
  | capture target filter body =>
      simp only [Stmt.lost, List.mem_append, not_or] at h
      obtain ⟨hfilter, hbody⟩ := h
      simp only [Stmt.folded, Stmt.mentions, List.find?_append, find?_folded_of_option hp hfilter,
        find?_foldBody hp insideBlocks body hbody]
  | withVars bindings body =>
      simp only [Stmt.lost, List.mem_append, not_or] at h
      obtain ⟨hbindings, hbody⟩ := h
      simp only [Stmt.folded, Stmt.mentions, List.find?_append, find?_folded_of_bindings hp hbindings,
        find?_foldBody hp insideBlocks body hbody, List.flatMap_map]
  | define name params defaults body line =>
      simp only [Stmt.lost, List.mem_append, not_or] at h
      obtain ⟨hdefaults, hbody⟩ := h
      simp only [Stmt.folded, Stmt.mentions, List.find?_append, find?_folded_of_all hp hdefaults,
        find?_foldBody hp insideBlocks body hbody]
  | callBlock params defaults call body line =>
      simp only [Stmt.lost, List.mem_append, not_or] at h
      obtain ⟨⟨hdefaults, hcall⟩, hbody⟩ := h
      simp only [Stmt.folded, Stmt.mentions, List.find?_append, Expr.find?_folded hp hcall,
        find?_folded_of_all hp hdefaults, find?_foldBody hp insideBlocks body hbody]
  | clause kind body line => simp only [Stmt.folded, Stmt.mentions, find?_foldBody hp insideBlocks body h]
  | filterBlock filter body =>
      simp only [Stmt.lost, List.mem_append, not_or] at h
      obtain ⟨hfilter, hbody⟩ := h
      simp only [Stmt.folded, Stmt.mentions, List.find?_append, Expr.find?_folded hp hfilter,
        find?_foldBody hp insideBlocks body hbody]
  | escaping value body =>
      simp only [Stmt.lost, List.mem_append, not_or] at h
      obtain ⟨hvalue, hbody⟩ := h
      simp only [Stmt.folded, Stmt.mentions, List.find?_append, Expr.find?_folded hp hvalue,
        find?_foldBody hp insideBlocks body hbody]
  | block name seesLocals required body line =>
      simp only [Stmt.folded, Stmt.mentions, List.find?_cons]
      cases insideBlocks with
      | true => simp only [if_true, find?_foldBody hp true body h]
      | false => rfl
  | foreign kind template names => simp only [Stmt.folded, Stmt.mentions, Expr.find?_folded hp h]

/-- What is left of statements mentions first what they mention first. -/
theorem find?_foldBody (hp : ∀ y, p (.read y) = true → y = x) (insideBlocks : Bool) (body : List Stmt)
    (h : x ∉ lostIn strict body) :
    (mentionsAll insideBlocks (foldBody strict body)).find? p = (mentionsAll insideBlocks body).find? p := by
  cases body with
  | nil => rfl
  | cons s ss =>
      simp only [lostIn, List.mem_append, not_or] at h
      simp only [foldBody, mentionsAll, List.find?_append, s.find?_folded hp insideBlocks h.1,
        find?_foldBody hp insideBlocks ss h.2]

theorem find?_foldBranches (hp : ∀ y, p (.read y) = true → y = x) (insideBlocks : Bool)
    (more : List (Expr String × List Stmt)) (h : x ∉ lostInBranches strict more) :
    (mentionsMore insideBlocks (foldBranches strict more)).find? p =
      (mentionsMore insideBlocks more).find? p := by
  cases more with
  | nil => rfl
  | cons branch more =>
      obtain ⟨test, body⟩ := branch
      simp only [lostInBranches, List.mem_append, not_or] at h
      obtain ⟨⟨htest, hbody⟩, hmore⟩ := h
      simp only [foldBranches, mentionsMore, List.find?_append, Expr.find?_folded hp htest,
        find?_foldBody hp insideBlocks body hbody, find?_foldBranches hp insideBlocks more hmore]

end

/-- A name that is not lost is read first as before. -/
theorem firstRead_foldBody {body : List Stmt} (h : x ∉ lostIn strict body) :
    firstRead x (foldBody strict body) = firstRead x body := by
  unfold firstRead
  rw [find?_foldBody (fun y hy => beq_iff_eq.mp hy) false body h]

/-- There are as many blocks as before. -/
theorem Stmt.hasSeeingBlock_folded {s : Stmt} (h : x ∉ s.lost strict) :
    (s.folded strict).hasSeeingBlock = s.hasSeeingBlock := by
  unfold Stmt.hasSeeingBlock
  rw [← List.isSome_find?, ← List.isSome_find?, s.find?_folded (fun y hy => Bool.noConfusion hy) true h]

end Mentions

end SqlMapper.Template
