import Mathlib
import SqlMapper.Text.Letters
/-!
# SqlMapper.Proofs.Text.Letters

The case of letters, where only ASCII is concerned. Upper case of an ASCII text is that of its letters
(`upper_of_ascii`). A text whose lower case is `true` is an ASCII text (`lower_eq_true_iff`): other letters
have ASCII letters for their lower case too, the Kelvin sign for one, but none of these four.
-/

namespace SqlMapper.Text

/-- Is a text one of ASCII characters? -/
def IsAscii (s : String) : Prop := ∀ c ∈ s.toList, c.val < 128

instance (s : String) : Decidable (IsAscii s) :=
  decidable_of_iff ((s.toList.all fun c => c.val < 128) = true) (by simp [IsAscii])

theorem upper_of_ascii {s : String} (h : IsAscii s) : String.ofList (upper s.toList) = s.toUpper := by
  have all : ∀ cs : List Char, (∀ c ∈ cs, c.val < 128) → upper cs = cs.map Char.toUpper := by
    intro cs h
    induction cs with
    | nil => rfl
    | cons c cs ih =>
        have hc := h c List.mem_cons_self
        rw [upper, List.flatMap_cons, upperChar, if_pos hc, List.map_cons]
        exact congrArg (c.toUpper :: ·) (ih fun d hd => h d (List.mem_cons_of_mem _ hd))
  rw [all s.toList h, ← String.toList_inj, String.toList_ofList, String.toUpper, String.toList_map]

/-! ### Lower case -/

/-- The letters of `true`. -/
def trueLetters : List Char := ['t', 'r', 'u', 'e']

/-- No letter beyond ASCII is moved to one of these. -/
theorem lowerRuns_avoid {run : CaseRun} (hrun : run ∈ lowerRuns) {x : Char} (hx : x ∈ trueLetters) :
    run.2.1 < 128 ∨ x.toNat < run.1 + run.2.2.2 ∨ run.2.1 + run.2.2.2 < x.toNat := by
  have runs : lowerRuns.all (fun run => trueLetters.all fun x => decide (run.2.1 < 128) ||
      decide ((x.toNat : Int) < run.1 + run.2.2.2) || decide (run.2.1 + run.2.2.2 < (x.toNat : Int))) = true := by
    decide +kernel
  have h := List.all_eq_true.mp (List.all_eq_true.mp runs run hrun) x hx
  simpa [or_assoc] using h

theorem code_of_mem_trueLetters {x : Char} (hx : x ∈ trueLetters) : 0 < x.toNat ∧ x.toNat < 128 := by
  have codes : trueLetters.all (fun x => decide (0 < x.toNat) && decide (x.toNat < 128)) = true := by
    decide +kernel
  simpa using List.all_eq_true.mp codes x hx

theorem shiftOf_avoids {n : Nat} (hn : 128 ≤ n) {x : Char} (hx : x ∈ trueLetters) :
    ((n : Int) + shiftOf lowerRuns n).toNat ≠ x.toNat := by
  have hcode := code_of_mem_trueLetters hx
  unfold shiftOf
  split
  case h_1 first last step shift hfind =>
      have hmem := List.mem_of_find?_eq_some hfind
      have hrange := List.find?_some hfind
      simp only [Bool.and_eq_true, decide_eq_true_eq] at hrange
      have havoid := lowerRuns_avoid hmem hx
      dsimp only at havoid
      omega
  case h_2 => omega

/-- The lower case of a character beyond ASCII begins with none of them. -/
theorem lowerChar_avoids {c : Char} (hc : ¬ c.val < 128) :
    ∃ y ys, lowerChar c = y :: ys ∧ y ∉ trueLetters := by
  have hn : 128 ≤ c.toNat := by
    simpa [UInt32.lt_iff_toNat_lt] using hc
  rw [lowerChar, if_neg hc, mapLetter]
  split
  case h_1 image himage =>
      rw [lowerSpecial, List.lookup_cons] at himage
      split at himage
      case h_1 =>
          cases himage
          exact ⟨_, _, rfl, by decide⟩
      case h_2 => cases himage
  case h_2 =>
      refine ⟨_, _, rfl, fun hmem => ?_⟩
      have hne := shiftOf_avoids hn hmem
      rw [Char.toNat_ofNat] at hne
      split at hne
      case isTrue => exact hne rfl
      case isFalse hvalid =>
        rw [Char.ofNat, dif_neg hvalid] at hmem
        exact absurd hmem (by decide)

/-- A text in lower case that is made of these is one of ASCII letters. -/
theorem lowerFrom_eq_iff (afterCased : Bool) (cs : List Char) {w : List Char} (hw : ∀ x ∈ w, x ∈ trueLetters) :
    lowerFrom afterCased cs = w ↔ cs.map Char.toLower = w := by
  induction cs generalizing afterCased w with
  | nil => rfl
  | cons c cs ih =>
      rw [lowerFrom, List.map_cons]
      by_cases hc : c.val < 128
      · have hsigma : ¬ (c == 'Σ') = true := by
          rintro heq
          rw [eq_of_beq heq] at hc
          exact absurd hc (by decide)
        rw [if_neg hsigma, lowerChar, if_pos hc]
        cases w with
        | nil => simp
        | cons x w =>
            rw [List.singleton_append, List.cons.injEq, List.cons.injEq,
              ih _ fun y hy => hw y (List.mem_cons_of_mem _ hy)]
      · -- on either side the first letter is none of these
        obtain ⟨y, ys, himage, hy⟩ : ∃ y ys, (if (c == 'Σ') = true then
            if (afterCased && !cs.head?.any isCased) = true then ['ς'] else ['σ'] else lowerChar c) = y :: ys ∧
            y ∉ trueLetters := by
          split
          case isTrue => split <;> exact ⟨_, _, rfl, by decide⟩
          case isFalse => exact lowerChar_avoids hc
        have hself : c.toLower = c := by
          unfold Char.toLower
          rw [dif_neg]
          rintro ⟨-, hz⟩
          rw [UInt32.lt_iff_toNat_lt] at hc
          exact hc (lt_of_le_of_lt (UInt32.le_iff_toNat_le.mp hz) (by decide))
        have hc' : c ∉ trueLetters := by
          intro hmem
          have hcode := (code_of_mem_trueLetters hmem).2
          exact hc (by simpa [UInt32.lt_iff_toNat_lt] using hcode)
        rw [himage, hself, List.cons_append]
        constructor
        · rintro rfl
          exact absurd (hw y List.mem_cons_self) hy
        · rintro rfl
          exact absurd (hw c List.mem_cons_self) hc'

/-- A text says `true` in any case if its ASCII letters do. -/
theorem lower_eq_true_iff (cs : List Char) :
    lower cs = "true".toList ↔ cs.map Char.toLower = "true".toList :=
  lowerFrom_eq_iff false cs fun _ h => h

end SqlMapper.Text
