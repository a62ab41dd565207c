import SqlMapper.Template.Lexer
/-!
# SqlMapper.Proofs.Template.PlainText

What a template's reader makes of plain text and of names. Text without opening marks is taken as a whole
(`takeData_append`), line ends apart, which are unified first. What begins a name is neither a digit nor a
blank, in any script (`isDigit_of_isNameStart`, `isBlank_of_isNameStart`).
-/

namespace SqlMapper.Template

open SqlMapper.Text

/-! ### Text without marks -/

/-- Does a text hold an opening mark? -/
def hasMark : List Char → Bool
  | [] => false
  | c :: cs => (c == openBrace && cs.head?.any isMark) || hasMark cs

theorem hasMark_append {as bs : List Char} (h : hasMark (as ++ bs) = false) : hasMark as = false := by
  induction as with
  | nil => rfl
  | cons a as ih =>
      rw [List.cons_append, hasMark, Bool.or_eq_false_iff] at h
      rw [hasMark, ih h.2, Bool.or_false]
      cases as with
      | nil => simp
      | cons b bs => simpa using h.1

/-- Text runs up to the first mark. -/
theorem takeData_append {cs rest : List Char} {m : Char} (h : hasMark cs = false)
    (hlast : cs.getLast? ≠ some openBrace) (hm : isMark m = true) :
    takeData (cs ++ openBrace :: m :: rest) = (cs, some (m, rest)) := by
  induction cs with
  | nil => simp [takeData, hm]
  | cons c cs ih =>
      rw [hasMark, Bool.or_eq_false_iff] at h
      cases cs with
      | nil =>
          have hc : c ≠ openBrace := by simpa using hlast
          simp [takeData, hc, hm]
      | cons d cs =>
          have hmark : ¬ (c = openBrace ∧ isMark d = true) := by simpa using h.1
          have hrest := ih h.2 (by simpa using hlast)
          rw [List.cons_append] at hrest
          rw [List.cons_append, List.cons_append, takeData, if_neg hmark, hrest]

/-- A text without marks runs up to its end. -/
theorem takeData_of_not_hasMark {cs : List Char} (h : hasMark cs = false) : takeData cs = (cs, none) := by
  induction cs with
  | nil => rfl
  | cons c cs ih =>
      rw [hasMark, Bool.or_eq_false_iff] at h
      cases cs with
      | nil => rfl
      | cons d cs =>
          have hmark : ¬ (c = openBrace ∧ isMark d = true) := by simpa using h.1
          rw [takeData, if_neg hmark, ih h.2]

/-! ### Line ends -/

theorem unifyLineEnds_append_of_head {as bs : List Char} (h : bs.head? ≠ some '\n') :
    unifyLineEnds (as ++ bs) = unifyLineEnds as ++ unifyLineEnds bs := by
  fun_induction unifyLineEnds as with
  | case1 => rfl
  | case2 cs ih => simp [unifyLineEnds, ih]
  | case3 cs hnext ih =>
      have hgoes : ∀ ds, cs ++ bs ≠ '\n' :: ds := by
        intro ds hds
        cases cs with
        | nil => exact h (by simpa using congrArg List.head? hds)
        | cons d cs => exact hnext cs (by rw [(List.cons.inj hds).1])
      rw [List.cons_append, unifyLineEnds, ih, List.cons_append]
      exact hgoes
  | case4 c cs hpair hsingle ih =>
      rw [List.cons_append, unifyLineEnds, ih, List.cons_append]
      · exact fun ds hc _ => hsingle hc
      · exact hsingle

theorem unifyLineEnds_append_of_not_mem {as bs : List Char} (h : '\r' ∉ as) :
    unifyLineEnds (as ++ bs) = as ++ unifyLineEnds bs := by
  induction as with
  | nil => rfl
  | cons a as ih =>
      rw [List.mem_cons, not_or] at h
      rw [List.cons_append, unifyLineEnds, ih h.2, List.cons_append]
      · exact fun ds ha _ => h.1 ha.symm
      · exact fun ha => h.1 ha.symm

/-- The line end that a character becomes. -/
def unifiedChar (c : Char) : Char := if c = '\r' then '\n' else c

theorem head?_unifyLineEnds (cs : List Char) :
    (unifyLineEnds cs).head? = cs.head?.map unifiedChar := by
  fun_induction unifyLineEnds cs with
  | case1 => rfl
  | case2 => rfl
  | case3 => rfl
  | case4 c cs hpair hsingle ih =>
      have hc : c ≠ '\r' := hsingle
      simp [unifiedChar, hc]

theorem unifyLineEnds_ne_nil {cs : List Char} (h : cs ≠ []) : unifyLineEnds cs ≠ [] := by
  intro hnil
  have hhead := head?_unifyLineEnds cs
  rw [hnil, List.head?_nil] at hhead
  cases cs with
  | nil => exact h rfl
  | cons c cs => cases hhead

theorem getLast?_unifyLineEnds (cs : List Char) :
    (unifyLineEnds cs).getLast? = cs.getLast?.map unifiedChar := by
  fun_induction unifyLineEnds cs with
  | case1 => rfl
  | case2 cs ih => cases cs <;> simp_all [List.getLast?_cons, unifiedChar]
  | case3 cs hnext ih => cases hcs : cs.getLast? <;> simp_all [List.getLast?_cons, unifiedChar]
  | case4 c cs hpair hsingle ih =>
      have hc : c ≠ '\r' := hsingle
      cases hcs : cs.getLast? <;> simp_all [List.getLast?_cons, unifiedChar]

/-- A character that no line end becomes. -/
theorem unifiedChar_eq_iff {c d : Char} (hr : d ≠ '\r') (hn : d ≠ '\n') : unifiedChar c = d ↔ c = d := by
  unfold unifiedChar
  split
  case isTrue hc =>
      subst hc
      exact ⟨fun h => absurd h.symm hn, fun h => absurd h.symm hr⟩
  case isFalse => exact Iff.rfl

theorem getLast?_unifyLineEnds_eq_iff {cs : List Char} {d : Char} (hr : d ≠ '\r') (hn : d ≠ '\n') :
    (unifyLineEnds cs).getLast? = some d ↔ cs.getLast? = some d := by
  rw [getLast?_unifyLineEnds, Option.map_eq_some_iff]
  simp only [unifiedChar_eq_iff hr hn, exists_eq_right]

theorem isMark_unifiedChar (c : Char) : isMark (unifiedChar c) = isMark c := by
  unfold unifiedChar
  split
  case isTrue hc =>
      subst hc
      decide
  case isFalse => rfl

theorem hasMark_unifyLineEnds (cs : List Char) : hasMark (unifyLineEnds cs) = hasMark cs := by
  fun_induction unifyLineEnds cs with
  | case1 => rfl
  | case2 cs ih => simp [hasMark, ih, openBrace]
  | case3 cs hnext ih => simp [hasMark, ih, openBrace]
  | case4 c cs hpair hsingle ih =>
      have hhead : (unifyLineEnds cs).head?.any isMark = cs.head?.any isMark := by
        rw [head?_unifyLineEnds, Option.any_map]
        congr 1
        exact funext isMark_unifiedChar
      rw [hasMark, hasMark, ih, hhead]

/-- At most one line feed at the end of a text is dropped. -/
theorem dropLastLineEnd_cases (cs : List Char) :
    cs = dropLastLineEnd cs ++ ['\n'] ∨ (dropLastLineEnd cs = cs ∧ cs.getLast? ≠ some '\n') := by
  unfold dropLastLineEnd
  split
  case h_1 r hr =>
      left
      have hcs : cs.reverse.reverse = cs := List.reverse_reverse cs
      rw [← hcs, hr, List.reverse_cons]
  case h_2 hr =>
      right
      refine ⟨rfl, fun hlast => ?_⟩
      obtain ⟨ds, hds⟩ := List.getLast?_eq_some_iff.mp hlast
      exact hr ds.reverse (by rw [hds, List.reverse_append]; rfl)

theorem head?_dropLastLineEnd {cs : List Char} {d : Char} (h : (dropLastLineEnd cs).head? = some d) :
    cs.head? = some d := by
  rcases dropLastLineEnd_cases cs with hcut | ⟨hsame, -⟩
  · rw [hcut, List.head?_append, h]
    rfl
  · rwa [hsame] at h

theorem hasMark_dropLastLineEnd {cs : List Char} (h : hasMark cs = false) :
    hasMark (dropLastLineEnd cs) = false := by
  rcases dropLastLineEnd_cases cs with hcut | ⟨hsame, -⟩
  · rw [hcut] at h
    exact hasMark_append h
  · rw [hsame]
    exact h

theorem dropLastLineEnd_append {as bs : List Char} (h : as.getLast? ≠ some '\n') :
    dropLastLineEnd (as ++ bs) = as ++ dropLastLineEnd bs := by
  cases hbs : bs.reverse with
  | nil =>
      have hnil : bs = [] := by simpa using hbs
      subst hnil
      rw [List.append_nil]
      rcases dropLastLineEnd_cases as with hcut | ⟨hsame, -⟩
      · exact absurd (by rw [hcut]; simp) h
      · rw [hsame, show dropLastLineEnd [] = [] from rfl, List.append_nil]
  | cons c r =>
      unfold dropLastLineEnd
      rw [List.reverse_append, hbs, List.cons_append]
      split
      case h_1 ds hds =>
          obtain ⟨rfl, rfl⟩ := List.cons.inj hds
          simp
      case h_2 hne =>
          have hc : c ≠ '\n' := by
            rintro rfl
            exact hne _ rfl
          simp [hc]

/-! ### The characters of names -/

variable {c : Char}

theorem exists_cons_of_isName {cs : List Char} (h : isName cs = true) :
    ∃ c rest, cs = c :: rest ∧ isNameStart c = true := by
  cases cs with
  | nil => cases h
  | cons c rest =>
      rw [isName, Bool.and_eq_true] at h
      exact ⟨c, rest, rfl, h.1⟩

theorem isNameInside_of_isName {cs : List Char} (h : isName cs = true) (hc : c ∈ cs) :
    isNameInside c = true := by
  cases cs with
  | nil => cases hc
  | cons d cs =>
      rw [isName, Bool.and_eq_true, List.all_eq_true] at h
      cases hc with
      | head => simp [isNameInside, h.1]
      | tail _ hmem => exact h.2 c hmem

/-- The code points of what begins a name. -/
theorem code_of_isNameStart (h : isNameStart c = true) :
    (65 ≤ c.toNat ∧ c.toNat ≤ 90) ∨ c.toNat = 95 ∨ (97 ≤ c.toNat ∧ c.toNat ≤ 122) ∨
      (128 ≤ c.toNat ∧ ∃ r ∈ nameStartRanges, r.1 ≤ c.toNat ∧ c.toNat ≤ r.2) := by
  have hcode : c.val.toNat = c.toNat := rfl
  unfold isNameStart at h
  split at h
  case isTrue hlt =>
      rw [Bool.or_eq_true, beq_iff_eq] at h
      rcases h with halpha | rfl
      · delta Char.isAlpha Char.isUpper Char.isLower at halpha
        simp only [Bool.or_eq_true, Bool.and_eq_true, decide_eq_true_eq, UInt32.le_iff_toNat_le] at halpha
        simp [hcode] at halpha
        omega
      · decide
  case isFalse hlt =>
      obtain ⟨r, hr, hin⟩ := List.any_eq_true.mp h
      simp only [Bool.and_eq_true, decide_eq_true_eq] at hin
      simp [UInt32.lt_iff_toNat_lt, hcode] at hlt
      exact Or.inr (Or.inr (Or.inr ⟨hlt, r, hr, hin⟩))

/-- A character that is no letter of ASCII begins no name. -/
theorem ne_of_isNameStart (h : isNameStart c = true) {d : Char} (hd : isNameStart d = false) : c ≠ d := by
  rintro rfl
  rw [h] at hd
  cases hd

/-- What begins a name is no digit of any script: the tables are apart. -/
theorem isDigit_of_isNameStart (h : isNameStart c = true) : isDigit c = false ∧ c.isDigit = false := by
  -- as one Boolean, which is much faster to evaluate than the quantified statement
  have tables : (zeros.all fun z => nameStartRanges.all fun r => Nat.ble (z + 10) r.1 || Nat.blt r.2 z) := by
    decide +kernel
  have apart : ∀ z ∈ zeros, ∀ r ∈ nameStartRanges, z + 10 ≤ r.1 ∨ r.2 < z := by
    simpa [List.all_eq_true] using tables
  have hcode : c.val.toNat = c.toNat := rfl
  have code := code_of_isNameStart h
  have ascii : c.isDigit = false := by
    delta Char.isDigit
    simp [UInt32.le_iff_toNat_le, hcode]
    omega
  refine ⟨?_, ascii⟩
  unfold isDigit digitValue?
  split
  case isTrue hlt => simp [ascii]
  case isFalse hlt =>
      simp [UInt32.lt_iff_toNat_lt, hcode] at hlt
      obtain ⟨-, r, hr, hin⟩ :
          128 ≤ c.toNat ∧ ∃ r ∈ nameStartRanges, r.1 ≤ c.toNat ∧ c.toNat ≤ r.2 := by
        rcases code with hupper | hunder | hlower | houtside
        · omega
        · omega
        · omega
        · exact houtside
      have none : zeros.find? (fun z => z ≤ c.toNat && c.toNat < z + 10) = none := by
        rw [List.find?_eq_none]
        intro z hz hdigit
        simp only [Bool.and_eq_true, decide_eq_true_eq] at hdigit
        have := apart z hz r hr
        omega
      simp [none]

/-- What begins a name is no blank. -/
theorem isBlank_of_isNameStart (h : isNameStart c = true) : isBlank c = false := by
  have apart : ∀ r ∈ nameStartRanges, ∀ b ∈ [(0x85, 0x85), (0xa0, 0xa0), (0x1680, 0x1680),
      (0x2000, 0x200a), (0x2028, 0x2029), (0x202f, 0x202f), (0x205f, 0x205f), (0x3000, 0x3000)],
      b.2 < r.1 ∨ r.2 < b.1 := by decide +kernel
  have hcode : c.val.toNat = c.toNat := rfl
  rw [Bool.eq_false_iff]
  intro hblank
  simp only [isBlank, Bool.or_eq_true, Bool.and_eq_true, decide_eq_true_eq, beq_iff_eq,
    UInt32.le_iff_toNat_le, ← UInt32.toNat_inj, hcode] at hblank
  simp at hblank
  rcases code_of_isNameStart h with hupper | hunder | hlower | ⟨hlarge, r, hr, hin⟩
  · omega
  · omega
  · omega
  · have away := apart r hr
    simp at away
    omega

end SqlMapper.Template
