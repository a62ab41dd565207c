import SqlMapper.Proofs.Template.Leftover
/-!
# SqlMapper.Proofs.Template.OneName

Scopes as far as one name goes (`Names.Alike`). What is read, assigned or given under other names does not
matter, so a scope of a template and the scope of what is left of it are alike at every name that is not lost
(`ofBody_alike`).
-/

namespace SqlMapper.Template

namespace Names

variable {x y : String} {ns ns' ns'' : Names} {outer outer' : Enclosing}

/-- Two scopes do the same with a name. -/
structure Alike (x : String) (ns ns' : Names) : Prop where
  slots : ns.slots.filter (·.1 == x) = ns'.slots.filter (·.1 == x)
  stored : ns.stored.filter (· == x) = ns'.stored.filter (· == x)

theorem Alike.refl (ns : Names) : Alike x ns ns := ⟨rfl, rfl⟩

theorem Alike.symm (h : Alike x ns ns') : Alike x ns' ns := ⟨h.slots.symm, h.stored.symm⟩

theorem Alike.trans (h : Alike x ns ns') (h' : Alike x ns' ns'') : Alike x ns ns'' :=
  ⟨h.slots.trans h'.slots, h.stored.trans h'.stored⟩

theorem has_eq_any (ns : Names) (x : String) : ns.has x = (ns.slots.filter (·.1 == x)).any fun _ => true := by
  rw [has, names, Bool.eq_iff_iff]
  simp

theorem Alike.has_eq (h : Alike x ns ns') : ns.has x = ns'.has x := by
  rw [has_eq_any, has_eq_any, h.slots]

theorem contains_eq_any (l : List String) (x : String) : l.contains x = (l.filter (· == x)).any fun _ => true := by
  rw [Bool.eq_iff_iff]
  simp

theorem Alike.contains_stored_eq (h : Alike x ns ns') : ns.stored.contains x = ns'.stored.contains x := by
  rw [contains_eq_any, contains_eq_any, h.stored]

/-! ### Single steps -/

theorem filter_map_slots (l : List (String × Source)) (y : String) (s : Source) :
    (l.map fun (z, t) => (z, if z == y then s else t)).filter (·.1 == x) =
      (l.filter (·.1 == x)).map fun (z, t) => (z, if z == y then s else t) :=
  List.filter_map

/-- What happens to another name does not matter. -/
theorem put_skip (hy : y ≠ x) (s : Source) (ns : Names) : Alike x (ns.put y s) ns := by
  unfold put
  split
  · -- the slot that is filled anew is that of another name
    refine ⟨?_, rfl⟩
    rw [filter_map_slots]
    refine (List.map_congr_left fun p hp => ?_).trans (List.map_id _)
    have hpx : p.1 = x := by simpa using (List.mem_filter.mp hp).2
    have hne : (p.1 == y) = false := by simpa [hpx] using Ne.symm hy
    simp [hne]
  · exact ⟨by simp [List.filter_append, hy], rfl⟩

theorem Alike.put (h : Alike x ns ns') (s : Source) : Alike x (ns.put x s) (ns'.put x s) := by
  unfold Names.put
  rw [h.has_eq]
  split
  · exact ⟨by rw [filter_map_slots, filter_map_slots, h.slots], h.stored⟩
  · exact ⟨by rw [List.filter_append, List.filter_append, h.slots], h.stored⟩

theorem note_skip (hy : y ≠ x) (ns : Names) : Alike x (ns.note y) ns := by
  unfold note
  split
  · exact .refl ns
  · exact ⟨rfl, by simp [List.filter_append, hy]⟩

theorem Alike.note (h : Alike x ns ns') : Alike x (ns.note x) (ns'.note x) := by
  unfold Names.note
  rw [h.contains_stored_eq]
  split
  · exact h
  · exact ⟨h.slots, by rw [List.filter_append, List.filter_append, h.stored]⟩

/-- A step that is about one name keeps scopes alike if it does so when it is about the name in question. -/
theorem Alike.step {f f' : Names → Names} (h : Alike x ns ns') (hskip : y ≠ x → ∀ ns, Alike x (f ns) ns)
    (hskip' : y ≠ x → ∀ ns, Alike x (f' ns) ns) (hstep : y = x → Alike x (f ns) (f' ns')) :
    Alike x (f ns) (f' ns') := by
  by_cases hy : y = x
  · exact hstep hy
  · exact (hskip hy ns).trans (h.trans (hskip' hy ns').symm)

theorem give_skip (hy : y ≠ x) (ns : Names) : Alike x (ns.give y) ns :=
  (put_skip hy .given _).trans (note_skip hy ns)

theorem Alike.give (h : Alike x ns ns') (y : String) : Alike x (ns.give y) (ns'.give y) :=
  h.step give_skip give_skip fun hy => hy ▸ h.note.put .given

theorem read_skip (hy : y ≠ x) (outer : Enclosing) (ns : Names) : Alike x (ns.read outer y) ns := by
  unfold read
  split
  · exact .refl ns
  · exact put_skip hy .outside ns

theorem Alike.read (h : Alike x ns ns') (houter : outer.has x = outer'.has x) :
    Alike x (ns.read outer x) (ns'.read outer' x) := by
  unfold Names.read
  rw [h.has_eq, houter]
  split
  · exact h
  · exact h.put .outside

theorem store_skip (hy : y ≠ x) (outer : Enclosing) (ns : Names) : Alike x (ns.store outer y) ns := by
  unfold store
  dsimp only
  split
  · exact note_skip hy ns
  · exact (put_skip hy _ _).trans (note_skip hy ns)

theorem Alike.store (h : Alike x ns ns') (houter : outer.has x = outer'.has x) (y : String) :
    Alike x (ns.store outer y) (ns'.store outer' y) := by
  refine h.step (fun hy => store_skip hy outer) (fun hy => store_skip hy outer') fun hy => ?_
  subst hy
  unfold Names.store
  dsimp only
  rw [h.note.has_eq, houter]
  split
  · exact h.note
  · exact h.note.put _

/-! ### Many steps -/

/-- The same steps in a row. -/
theorem Alike.foldl {α : Type} {f f' : Names → α → Names} {as : List α}
    (hstep : ∀ a ∈ as, ∀ ns ns', Alike x ns ns' → Alike x (f ns a) (f' ns' a)) (h : Alike x ns ns') :
    Alike x (as.foldl f ns) (as.foldl f' ns') := by
  induction as generalizing ns ns' with
  | nil => exact h
  | cons a as ih =>
      exact ih (fun b hb => hstep b (List.mem_cons_of_mem _ hb)) (hstep a List.mem_cons_self _ _ h)

section Filter

variable {α : Type} (name : α → String) {f f' : Names → α → Names}

/-- Of steps in a row, only those matter that are about the name. -/
theorem Alike.foldl_filter (hskip : ∀ a ns, name a ≠ x → Alike x (f ns a) ns)
    (hstep : ∀ a ns ns', name a = x → Alike x ns ns' → Alike x (f ns a) (f' ns' a)) (as : List α)
    (h : Alike x ns ns') : Alike x (as.foldl f ns) ((as.filter (name · == x)).foldl f' ns') := by
  induction as generalizing ns ns' with
  | nil => exact h
  | cons a as ih =>
      by_cases ha : name a = x
      · rw [List.filter_cons_of_pos (by simpa using ha)]
        exact ih (hstep a ns ns' ha h)
      · rw [List.filter_cons_of_neg (by simpa using ha)]
        exact ih ((hskip a ns ha).trans h)

/-- Steps in a row that are the same as far as they are about the name. -/
theorem Alike.foldl_of_filter_eq (hskip : ∀ a ns, name a ≠ x → Alike x (f ns a) ns)
    (hskip' : ∀ a ns, name a ≠ x → Alike x (f' ns a) ns)
    (hstep : ∀ a ns ns', name a = x → Alike x ns ns' → Alike x (f ns a) (f' ns' a)) {as bs : List α}
    (has : as.filter (name · == x) = bs.filter (name · == x)) (h : Alike x ns ns') :
    Alike x (as.foldl f ns) (bs.foldl f' ns') := by
  have hstep' : ∀ a ns ns', name a = x → Alike x ns ns' → Alike x (f' ns a) (f' ns' a) :=
    fun a ns ns' ha h => (hstep a ns ns ha (.refl ns)).symm.trans (hstep a ns ns' ha h)
  have hleft := Alike.foldl_filter name hskip hstep as h
  have hright := Alike.foldl_filter name hskip' hstep' bs (.refl ns')
  rw [has] at hleft
  exact hleft.trans hright.symm

end Filter

theorem has_put (ns : Names) (y : String) (s : Source) : (ns.put y s).has y = true := by
  unfold put
  split
  case isTrue hhas =>
      rw [← hhas, has, has, names, names, List.map_map]
      rfl
  case isFalse => simp [has, names]

theorem read_read (outer : Enclosing) (ns : Names) (y : String) :
    (ns.read outer y).read outer y = ns.read outer y := by
  conv_lhs => rw [read]
  refine if_pos ?_
  rw [read]
  split
  · assumption
  · rw [has_put, Bool.true_or]

/-- Reading names is reading the one name, or nothing. -/
theorem foldl_read_alike (outer : Enclosing) (ns : Names) (names : List String) :
    Alike x (names.foldl (read outer) ns) (if x ∈ names then ns.read outer x else ns) := by
  induction names generalizing ns with
  | nil => exact .refl ns
  | cons y names ih =>
      refine (ih (ns.read outer y)).trans ?_
      by_cases hy : y = x
      · subst hy
        simp [read_read, Alike.refl]
      · have hyx : x ≠ y := fun hxy => hy hxy.symm
        simp only [List.mem_cons, hyx, false_or]
        split
        · exact (read_skip hy outer ns).read rfl
        · exact read_skip hy outer ns

theorem Alike.readNames (h : Alike x ns ns') (houter : outer.has x = outer'.has x) {reads reads' : List String}
    (hreads : x ∈ reads ↔ x ∈ reads') :
    Alike x (reads.foldl (Names.read outer) ns) (reads'.foldl (Names.read outer') ns') := by
  refine (foldl_read_alike outer ns reads).trans (.trans ?_ (foldl_read_alike outer' ns' reads').symm)
  simp only [hreads]
  split
  · exact h.read houter
  · exact h

/-- An expression and what is left of it. -/
theorem Alike.readAll (h : Alike x ns ns') (houter : outer.has x = outer'.has x) {strict : Bool}
    {e : Expr String} (hx : x ∉ e.lost strict) :
    Alike x (ns.readAll outer e) (ns'.readAll outer' (e.folded strict)) :=
  h.readNames houter (Expr.mem_reads_folded hx).symm

theorem Alike.storeTarget (h : Alike x ns ns') (houter : outer.has x = outer'.has x) (t : Target String) :
    Alike x (ns.storeTarget outer t) (ns'.storeTarget outer' t) := by
  refine h.foldl fun a _ ns ns' h => ?_
  obtain ⟨isField, y⟩ := a
  cases isField with
  | true =>
      exact h.step (fun hy => read_skip hy outer) (fun hy => read_skip hy outer') fun hy => hy ▸ h.read houter
  | false => exact h.store houter y

theorem Alike.giveTarget (h : Alike x ns ns') (t : Target String) :
    Alike x (ns.giveTarget t) (ns'.giveTarget t) := by
  refine h.foldl fun a _ ns ns' h => ?_
  obtain ⟨isField, y⟩ := a
  cases isField with
  | true => exact h
  | false => exact h.give y

/-! ### Branches -/

/-- Taking over what branches do. -/
theorem Alike.takeOver (h : Alike x ns ns') {bs bs' : List Names} (hbs : List.Forall₂ (Alike x) bs bs') :
    Alike x
      (bs.foldl (fun acc b => b.stored.foldl Names.note (b.slots.foldl (fun acc (y, s) => acc.put y s) acc)) ns)
      (bs'.foldl (fun acc b => b.stored.foldl Names.note (b.slots.foldl (fun acc (y, s) => acc.put y s) acc))
        ns') := by
  induction hbs generalizing ns ns' with
  | nil => exact h
  | cons hb _ ih =>
      refine ih ?_
      refine .foldl_of_filter_eq (fun y => y) (fun y ns hy => note_skip hy ns) (fun y ns hy => note_skip hy ns)
        (fun y ns ns' hy h => hy ▸ h.note) hb.stored ?_
      exact .foldl_of_filter_eq Prod.fst (fun a ns ha => put_skip ha a.2 ns) (fun a ns ha => put_skip ha a.2 ns)
        (fun a ns ns' ha h => ha ▸ h.put a.2) hb.slots h

theorem filter_stored_eq {bs bs' : List Names} (hbs : List.Forall₂ (Alike x) bs bs') :
    (bs.flatMap stored).filter (· == x) = (bs'.flatMap stored).filter (· == x) := by
  induction hbs with
  | nil => rfl
  | cons hb _ ih => rw [List.flatMap_cons, List.flatMap_cons, List.filter_append, List.filter_append, hb.stored, ih]

/-- Whether the branches assign to the name and what stands before them does not. -/
theorem Alike.filter_fresh_eq (h : Alike x ns ns') {bs bs' : List Names}
    (hbs : List.Forall₂ (Alike x) bs bs') :
    ((bs.flatMap Names.stored).filter fun y => !ns.stored.contains y).filter (· == x) =
      ((bs'.flatMap Names.stored).filter fun y => !ns'.stored.contains y).filter (· == x) := by
  rw [List.filter_comm, List.filter_comm (· == x), filter_stored_eq hbs]
  refine List.filter_congr fun y hy => ?_
  have hyx : y = x := by simpa using (List.mem_filter.mp hy).2
  rw [hyx, h.contains_stored_eq]

theorem Alike.merge (h : Alike x ns ns') (houter : outer.has x = outer'.has x) {bs bs' : List Names}
    (hbs : List.Forall₂ (Alike x) bs bs') : Alike x (ns.merge outer bs) (ns'.merge outer' bs') := by
  refine .foldl_of_filter_eq (fun y => y) (fun y ns hy => put_skip hy _ ns) (fun y ns hy => put_skip hy _ ns)
    (fun y ns ns' hy h => ?_) (h.filter_fresh_eq hbs) (h.takeOver hbs)
  subst hy
  rw [houter]
  exact h.put _

/-! ### Statements -/

section Statements

variable {strict : Bool}

theorem ofStmt_output_eq (outer : Enclosing) (ns : Names) (ps : List (Piece String)) :
    ofStmt outer ns (.output ps) = ps.foldl (fun ns p => p.reads.foldl (Names.read outer) ns) ns := by
  rw [ofStmt]
  congr
  funext ns p
  cases p <;> rfl

mutual

theorem ofStmt_alike {ns ns' : Names} (houter : outer.has x = outer'.has x) (s : Stmt)
    (hx : x ∉ s.lost strict) (h : Alike x ns ns') :
    Alike x (ofStmt outer ns s) (ofStmt outer' ns' (s.folded strict)) := by
  cases s with
  | output pieces =>
      rw [Stmt.folded, ofStmt_output_eq, ofStmt_output_eq, List.foldl_map]
      exact h.foldl fun p hp ns ns' h =>
        h.readNames houter (Piece.mem_reads_folded fun hpx => hx (List.mem_flatMap.mpr ⟨p, hp, hpx⟩)).symm
  | choice test body more otherwise =>
      simp only [Stmt.lost, List.mem_append, not_or] at hx
      obtain ⟨⟨⟨htest, hbody⟩, hmore⟩, hotherwise⟩ := hx
      have htested := h.readAll houter htest
      simp only [Stmt.folded, ofStmt]
      exact htested.merge houter
        (.cons (ofBody_alike houter body hbody htested)
          (.cons (ofBranches_alike houter more hmore htested)
            (.cons (ofBody_alike houter otherwise hotherwise htested) .nil)))
  | loop target source test recursive body otherwise line =>
      simp only [Stmt.lost, List.mem_append, not_or] at hx
      exact h.readAll houter hx.1.1.1
  | assign target e => exact (h.readAll houter hx).storeTarget houter target
  | capture target filter body => exact h.storeTarget houter target
  | withVars bindings body =>
      simp only [Stmt.lost, List.mem_append, not_or] at hx
      simp only [Stmt.folded, ofStmt, List.foldl_map]
      exact h.foldl fun b hb ns ns' h =>
        h.readAll houter fun hbx => hx.1 (List.mem_flatMap.mpr ⟨b, hb, hbx⟩)
  | define name params defaults body line => exact h.store houter name
  | callBlock params defaults call body line =>
      simp only [Stmt.lost, List.mem_append, not_or] at hx
      exact h.readAll houter hx.1.2
  | clause | escaping | block => exact h
  | filterBlock filter body =>
      simp only [Stmt.lost, List.mem_append, not_or] at hx
      exact h.readAll houter hx.1
  | foreign kind template names =>
      exact (h.readAll houter hx).foldl fun name _ ns ns' h => h.store houter name

/-- **A scope of statements and of what is left of them.** They are alike at every name that is not lost. -/
theorem ofBody_alike {ns ns' : Names} (houter : outer.has x = outer'.has x) (body : List Stmt)
    (hx : x ∉ lostIn strict body) (h : Alike x ns ns') :
    Alike x (ofBody outer ns body) (ofBody outer' ns' (foldBody strict body)) := by
  cases body with
  | nil => exact h
  | cons s ss =>
      simp only [lostIn, List.mem_append, not_or] at hx
      simp only [foldBody, ofBody]
      exact ofBody_alike houter ss hx.2 (ofStmt_alike houter s hx.1 h)

theorem ofBranches_alike {ns ns' : Names} (houter : outer.has x = outer'.has x)
    (more : List (Expr String × List Stmt)) (hx : x ∉ lostInBranches strict more) (h : Alike x ns ns') :
    Alike x (ofBranches outer ns more) (ofBranches outer' ns' (foldBranches strict more)) := by
  cases more with
  | nil => exact h
  | cons branch more =>
      obtain ⟨test, body⟩ := branch
      simp only [lostInBranches, List.mem_append, not_or] at hx
      obtain ⟨⟨htest, hbody⟩, hmore⟩ := hx
      have htested := h.readAll houter htest
      simp only [foldBranches, ofBranches]
      exact ofBranches_alike houter more hmore (htested.merge houter
        (.cons (ofBody_alike houter body hbody htested) (.cons htested (.cons htested .nil))))

end

end Statements

end Names

end SqlMapper.Template
