import SqlMapper.Proofs.Template.Composition
/-!
# SqlMapper.Proofs.Template.TrailingCommas

What a block of assignments cuts off the end of its body. All that stands behind the last character that is neither
blank nor a comma is the body's tail (`isSeparator`), and the block takes at most one comma off it, with the blanks
around: the tail of what is left has one comma less (`trailingCommas_remainder`). So an empty block and a body
without a comma at its end are had from bodies that end in one comma at most (`stripsCommas_iff`).
-/

namespace SqlMapper

namespace Template

open Text

variable {as bs cs : List Char}

/-! ### The tail of a body -/

theorem isBlank_comma : isBlank ',' = false := by decide

/-- The characters that stand between assignments. -/
def isSeparator (c : Char) : Bool := c == ',' || isBlank c

/-- The number of commas behind the last character that is no separator. -/
def trailingCommas (cs : List Char) : Nat := (cs.rtakeWhile isSeparator).count ','

theorem all_isSeparator_of_all_isBlank (h : cs.all isBlank = true) : cs.all isSeparator = true := by
  rw [List.all_eq_true] at h ⊢
  intro c hc
  rw [isSeparator, h c hc, Bool.or_true]

theorem count_comma_of_all_isBlank (h : cs.all isBlank = true) : cs.count ',' = 0 := by
  refine List.count_eq_zero.mpr fun hmem => ?_
  have hblank := List.all_eq_true.mp h ',' hmem
  rw [isBlank_comma] at hblank
  exact Bool.false_ne_true hblank

@[simp] theorem trailingCommas_nil : trailingCommas [] = 0 := rfl

theorem trailingCommas_concat_of_isSeparator {c : Char} (hc : isSeparator c = true) (cs : List Char) :
    trailingCommas (cs ++ [c]) = trailingCommas cs + [c].count ',' := by
  rw [trailingCommas, List.rtakeWhile_concat_pos isSeparator cs c hc, List.count_append]
  rfl

theorem trailingCommas_concat_of_not {c : Char} (hc : ¬ isSeparator c = true) (cs : List Char) :
    trailingCommas (cs ++ [c]) = 0 := by
  rw [trailingCommas, List.rtakeWhile_concat_neg isSeparator cs c hc]
  rfl

/-- Separators at the end of a text belong to its tail. -/
theorem trailingCommas_append (as : List Char) (h : bs.all isSeparator = true) :
    trailingCommas (as ++ bs) = trailingCommas as + bs.count ',' := by
  induction bs using List.reverseRecOn with
  | nil => rw [List.append_nil]; rfl
  | append_singleton bs c ih =>
      rw [List.all_append, Bool.and_eq_true, List.all_cons, List.all_nil, Bool.and_true] at h
      rw [← List.append_assoc, trailingCommas_concat_of_isSeparator h.2, ih h.1, List.count_append, Nat.add_assoc]

theorem trailingCommas_of_all (h : cs.all isSeparator = true) : trailingCommas cs = cs.count ',' := by
  have hall := trailingCommas_append [] h
  rwa [List.nil_append, trailingCommas_nil, Nat.zero_add] at hall

/-- Blanks at its front add no comma to it. -/
theorem trailingCommas_append_left (h : as.all isBlank = true) (bs : List Char) :
    trailingCommas (as ++ bs) = trailingCommas bs := by
  induction bs using List.reverseRecOn with
  | nil =>
      rw [List.append_nil, trailingCommas_of_all (all_isSeparator_of_all_isBlank h), count_comma_of_all_isBlank h]
      rfl
  | append_singleton bs c ih =>
      rw [← List.append_assoc]
      by_cases hc : isSeparator c = true
      · rw [trailingCommas_concat_of_isSeparator hc, trailingCommas_concat_of_isSeparator hc, ih]
      · rw [trailingCommas_concat_of_not hc, trailingCommas_concat_of_not hc]

theorem trailingCommas_trim (cs : List Char) : trailingCommas (trim cs) = trailingCommas cs := by
  obtain ⟨before, behind, hcs, hbefore, hbehind⟩ := exists_eq_trim cs
  conv_rhs => rw [hcs]
  rw [trailingCommas_append _ (all_isSeparator_of_all_isBlank hbehind), trailingCommas_append_left hbefore,
    count_comma_of_all_isBlank hbehind, Nat.add_zero]

/-- A trimmed text has commas in its tail if it ends in one. -/
theorem trailingCommas_eq_zero_iff (h : trim cs = cs) : trailingCommas cs = 0 ↔ cs.getLast? ≠ some ',' := by
  cases cs using List.reverseRecOn with
  | nil => simp
  | append_singleton cs c =>
      have hblank : isBlank c = false := by
        have hlast := isBlank_getLast_of_trim h (by simp)
        rwa [List.getLast_append_singleton] at hlast
      rw [List.getLast?_concat]
      by_cases hc : c = ','
      · subst hc
        rw [trailingCommas_concat_of_isSeparator rfl]
        simp
      · have hsep : ¬ isSeparator c = true := by simp [isSeparator, hc, hblank]
        simp [trailingCommas_concat_of_not hsep, hc]

/-! ### What a block leaves of its body -/

/-- What is written behind the keyword of a block of assignments. -/
def remainder (cs : List Char) : List Char := trim (dropComma (trim cs))

theorem trim_remainder (cs : List Char) : trim (remainder cs) = remainder cs := trim_trim _

theorem clauseChars_assignments (cs : List Char) :
    clauseChars .assignments cs = if remainder cs = [] then [] else "SET ".toList ++ remainder cs := by
  have hinner : trim (ClauseKind.assignments.cut (trim cs)) = remainder cs := rfl
  rw [clauseChars, hinner]
  cases remainder cs with
  | nil => rfl
  | cons c cs => rfl

/-- The comma that a trimmed text ends in is cut off, with the blanks before it; a text that ends in none is left as
it is. -/
theorem dropComma_cases (h : trim cs = cs) :
    (∃ ds, cs = ds ++ [','] ∧ dropComma cs = dropBlanksRight ds) ∨
      cs.getLast? ≠ some ',' ∧ dropComma cs = cs := by
  cases cs using List.reverseRecOn with
  | nil => exact .inr ⟨by simp, rfl⟩
  | append_singleton cs c =>
      have hright : (cs ++ [c]).reverse.dropWhile isBlank = c :: cs.reverse := by
        have hreverse := congrArg List.reverse (trim_eq_self_iff.mp h).2
        rw [dropBlanksRight, List.reverse_reverse] at hreverse
        rw [hreverse, List.reverse_concat]
      unfold dropComma
      rw [hright]
      by_cases hc : c = ','
      · subst hc
        exact .inl ⟨cs, rfl, rfl⟩
      · refine .inr ⟨by simpa using hc, ?_⟩
        split
        · next heq => exact absurd (List.cons.inj heq).1 hc
        · rfl

/-- **What is left of a body.** All that goes is at its ends: blanks at the front, and separators at the end, among
which is one comma if there is one. -/
theorem exists_eq_remainder (cs : List Char) : ∃ before behind, cs = before ++ remainder cs ++ behind ∧
    before.all isBlank = true ∧ behind.all isSeparator = true ∧ behind.count ',' = min 1 (trailingCommas cs) := by
  obtain ⟨before, behind, hcs, hbefore, hbehind⟩ := exists_eq_trim cs
  have htail := trailingCommas_trim cs
  unfold remainder
  rcases dropComma_cases (trim_trim cs) with ⟨ds, hds, hdrop⟩ | ⟨hlast, hdrop⟩
  · obtain ⟨front, back, hleft, hfront, hback⟩ := exists_eq_trim (dropBlanksRight ds)
    let gap := ds.rtakeWhile isBlank
    have hgap : gap.all isBlank = true := List.all_eq_true.mpr fun c hc => List.mem_rtakeWhile_imp hc
    have hds' : dropBlanksRight ds ++ gap = ds := List.rdropWhile_append_rtakeWhile
    refine ⟨before ++ front, back ++ gap ++ [','] ++ behind, ?_, ?_, ?_, ?_⟩
    · rw [hdrop]
      calc cs = before ++ (dropBlanksRight ds ++ gap ++ [',']) ++ behind := by rw [hds', ← hds, ← hcs]
        _ = before ++ (front ++ trim (dropBlanksRight ds) ++ back ++ gap ++ [',']) ++ behind := by rw [← hleft]
        _ = before ++ front ++ trim (dropBlanksRight ds) ++ (back ++ gap ++ [','] ++ behind) := by
          simp only [List.append_assoc]
    · rw [List.all_append, hbefore, hfront, Bool.true_and]
    · simp only [List.all_append, all_isSeparator_of_all_isBlank hback, all_isSeparator_of_all_isBlank hgap,
        all_isSeparator_of_all_isBlank hbehind]
      rfl
    · rw [hds, trailingCommas_concat_of_isSeparator rfl] at htail
      simp only [List.count_append, count_comma_of_all_isBlank hback, count_comma_of_all_isBlank hgap,
        count_comma_of_all_isBlank hbehind, List.count_singleton_self] at htail ⊢
      omega
  · have hnone := (trailingCommas_eq_zero_iff (trim_trim cs)).mpr hlast
    refine ⟨before, behind, by rwa [hdrop, trim_trim], hbefore, all_isSeparator_of_all_isBlank hbehind, ?_⟩
    rw [count_comma_of_all_isBlank hbehind, ← htail, hnone]
    rfl

theorem trailingCommas_remainder (cs : List Char) : trailingCommas (remainder cs) = trailingCommas cs - 1 := by
  obtain ⟨before, behind, hcs, hbefore, hbehind, hcount⟩ := exists_eq_remainder cs
  have htail : trailingCommas cs = trailingCommas (remainder cs) + min 1 (trailingCommas cs) := by
    conv_lhs => rw [hcs]
    rw [trailingCommas_append _ hbehind, trailingCommas_append_left hbefore, hcount]
  omega

theorem all_isSeparator_remainder (cs : List Char) : (remainder cs).all isSeparator = cs.all isSeparator := by
  obtain ⟨before, behind, hcs, hbefore, hbehind, -⟩ := exists_eq_remainder cs
  conv_rhs => rw [hcs]
  rw [List.all_append, List.all_append, all_isSeparator_of_all_isBlank hbefore, hbehind, Bool.true_and, Bool.and_true]

/-- Nothing is left of separators with one comma at most. -/
theorem remainder_eq_nil_iff (cs : List Char) :
    remainder cs = [] ↔ cs.all isSeparator = true ∧ trailingCommas cs ≤ 1 := by
  have htail := trailingCommas_remainder cs
  rw [← all_isSeparator_remainder]
  constructor
  · intro hnil
    rw [hnil, trailingCommas_nil] at htail
    rw [hnil]
    exact ⟨rfl, by omega⟩
  · rintro ⟨hall, hone⟩
    have hnone : trailingCommas (remainder cs) = 0 := by omega
    have hlast := (trailingCommas_eq_zero_iff (trim_remainder cs)).mp hnone
    by_contra hne
    have hend := List.all_eq_true.mp hall _ (List.getLast_mem hne)
    rw [isSeparator, isBlank_getLast_of_trim (trim_remainder cs) hne, Bool.or_false, beq_iff_eq] at hend
    rw [List.getLast?_eq_some_getLast hne, hend] at hlast
    exact hlast rfl

/-! ### What a block writes -/

/-- What a block of assignments should write for its body: nothing if there are only separators, and otherwise the
keyword and a trimmed text without a comma at its end. -/
structure StripsCommas (body text : String) : Prop where
  shape : text = "" ∨ ∃ t, text = "SET " ++ String.ofList t ∧ t ≠ [] ∧ trim t = t ∧ t.getLast? ≠ some ','
  empty_iff : text = "" ↔ body.toList.all isSeparator = true

theorem clauseText_assignments (body : String) : clauseText .assignments body =
    if remainder body.toList = [] then "" else "SET " ++ String.ofList (remainder body.toList) := by
  rw [clauseText, clauseChars_assignments]
  split
  · rfl
  · rw [String.ofList_append]
    rfl

theorem clauseText_assignments_eq_empty_iff (body : String) :
    clauseText .assignments body = "" ↔ body.toList.all isSeparator = true ∧ trailingCommas body.toList ≤ 1 := by
  rw [clauseText_assignments, ← remainder_eq_nil_iff]
  split
  · next h => simp [h]
  · next h =>
    refine iff_of_false (fun hempty => ?_) h
    have hlist := congrArg String.toList hempty
    simp at hlist

/-- A block does what it should for the bodies that have one comma in their tail at most. -/
theorem stripsCommas_iff (body : String) :
    StripsCommas body (clauseText .assignments body) ↔ trailingCommas body.toList ≤ 1 := by
  have htail := trailingCommas_remainder body.toList
  have hempty := clauseText_assignments_eq_empty_iff body
  constructor
  · rintro ⟨hnone | ⟨t, htext, -, htrim, hlast⟩, -⟩
    · exact (hempty.mp hnone).2
    · have hsame : remainder body.toList = t := by
        rw [clauseText_assignments] at htext
        split at htext
        · have hlist := congrArg String.toList htext
          simp at hlist
        · exact String.ofList_injective ((String.append_right_inj _).mp htext)
      rw [hsame, (trailingCommas_eq_zero_iff htrim).mpr hlast] at htail
      omega
  · intro hone
    refine ⟨?_, hempty.trans (and_iff_left hone)⟩
    rw [clauseText_assignments]
    split
    · exact .inl rfl
    · next hne =>
      refine .inr ⟨_, rfl, hne, trim_remainder _, ?_⟩
      exact (trailingCommas_eq_zero_iff (trim_remainder _)).mp (by omega)

section Block

variable {ctx : Context} {below : Meaning} {frames : Frames} {index : Nat} {s s' : Store} {body : String}

/-- A block writes the text of the clause. -/
theorem run_execNode_clause (kind : ClauseKind)
    (hbody : (invoke ctx below index frames {}).run s = .ok (.str body, s')) :
    (execNode ctx below frames (.clause kind index)).run s = .ok (clauseText kind body, s') :=
  (run_bind_ok hbody).trans rfl

/-- **One comma is stripped.** -/
theorem one_comma_stripped (hbody : (invoke ctx below index frames {}).run s = .ok (.str body, s')) :
    ∃ text, (execNode ctx below frames (.clause .assignments index)).run s = .ok (text, s') ∧
      (StripsCommas body text ↔ trailingCommas body.toList ≤ 1) ∧
      (text = "" ↔ body.toList.all isSeparator = true ∧ trailingCommas body.toList ≤ 1) ∧
      (text ≠ "" → ∃ before t behind, body.toList = before ++ t ++ behind ∧ text = "SET " ++ String.ofList t ∧
        t ≠ [] ∧ trim t = t ∧ before.all isBlank = true ∧ behind.all isSeparator = true ∧
        behind.count ',' = min 1 (trailingCommas body.toList) ∧
        trailingCommas t = trailingCommas body.toList - 1) := by
  refine ⟨_, run_execNode_clause .assignments hbody, stripsCommas_iff body, clauseText_assignments_eq_empty_iff body,
    fun hne => ?_⟩
  obtain ⟨before, behind, heq, hbefore, hbehind, hcount⟩ := exists_eq_remainder body.toList
  rw [clauseText_assignments] at hne ⊢
  split at hne
  · exact absurd rfl hne
  · next h =>
    rw [if_neg h]
    exact ⟨before, _, behind, heq, rfl, h, trim_remainder _, hbefore, hbehind, hcount, trailingCommas_remainder _⟩

/-- A template that is a block of assignments with a given body. -/
def assignmentsBlock (body : String) : Context where
  program :=
    { externals := [], scope := [], body := [.clause .assignments 0], loops := []
      snippets := [plainSnippet [] [.text body]] }
  outside := []
  strict := false

/-- Its body, run in a frame of its own. -/
theorem run_invoke_assignmentsBlock (fuel : Nat) (body : String) (s : Store) :
    (invoke (assignmentsBlock body) ⟨eval (assignmentsBlock body) (fuel + 1), exec (assignmentsBlock body) (fuel + 1)⟩
      0 [] {}).run s = .ok (.str body, { cells := s.cells.push (.frame []) }) := by
  have hsnippet : (assignmentsBlock body).program.snippets[0]? = some (plainSnippet [] [.text body]) := rfl
  exact run_invoke_plain hsnippet (run_exec_text body)

/-- A comma that is written twice is left once. -/
theorem one_comma_stripped_of_twice : ∃ text,
    (execNode (assignmentsBlock "a = 1,,") ⟨eval (assignmentsBlock "a = 1,,") 1, exec (assignmentsBlock "a = 1,,") 1⟩ []
      (.clause .assignments 0)).run {} = .ok (text, { cells := #[.frame []] }) ∧
    text ≠ "" ∧ ¬ StripsCommas "a = 1,," text := by
  obtain ⟨text, hrun, hstrips, hempty, -⟩ := one_comma_stripped (run_invoke_assignmentsBlock 0 "a = 1,," {})
  have htail : trailingCommas "a = 1,,".toList = 2 := by decide
  rw [htail] at hstrips hempty
  exact ⟨text, hrun, fun h => absurd (hempty.mp h).2 (by decide), fun h => absurd (hstrips.mp h) (by decide)⟩

/-- The separators of two assignments that are both left out. -/
theorem not_stripsCommas : ¬ ∀ (ctx : Context) (below : Meaning) (frames : Frames) (index : Nat) (s s' : Store)
    (body text : String), (invoke ctx below index frames {}).run s = .ok (.str body, s') →
      (execNode ctx below frames (.clause .assignments index)).run s = .ok (text, s') → StripsCommas body text := by
  intro h
  have hbody := run_invoke_assignmentsBlock 0 ", ," {}
  have hstrips := h _ _ _ _ _ _ _ _ hbody (run_execNode_clause .assignments hbody)
  exact absurd ((stripsCommas_iff ", ,").mp hstrips) (by decide)

end Block

end Template

end SqlMapper
