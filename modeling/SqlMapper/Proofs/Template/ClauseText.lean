import Mathlib.Data.List.DropRight
import SqlMapper.Template.Clause
/-!
# SqlMapper.Proofs.Template.ClauseText

What a clause makes of a body of trimmed texts, each with the connective before it or the comma behind it
(`clauseChars_flatMap`): nothing if there is none, and otherwise the keyword and the texts, joined. Only the first
connective and the last comma are cut off, whatever the texts are.
-/

namespace SqlMapper

/-! ### Trimmed texts -/

namespace Text

variable {as bs cs : List Char}

theorem dropBlanks_append (h : dropBlanks as = as) (hne : as ≠ []) (bs : List Char) :
    dropBlanks (as ++ bs) = as ++ bs := by
  unfold dropBlanks at h ⊢
  rw [List.dropWhile_eq_self_iff] at h ⊢
  intro _
  have hpos := List.length_pos_iff.mpr hne
  rw [List.getElem_append_left hpos]
  exact h hpos

theorem dropBlanksRight_append (h : dropBlanksRight bs = bs) (hne : bs ≠ []) (as : List Char) :
    dropBlanksRight (as ++ bs) = as ++ bs := by
  have hbs : bs.rdropWhile isBlank = bs := h
  change (as ++ bs).rdropWhile isBlank = as ++ bs
  rw [List.rdropWhile_eq_self_iff] at hbs ⊢
  intro _
  rw [List.getLast_append_of_ne_nil _ hne]
  exact hbs hne

/-- A text is trimmed if it loses nothing at either end. -/
theorem trim_eq_self_iff : trim cs = cs ↔ dropBlanks cs = cs ∧ dropBlanksRight cs = cs := by
  constructor
  · intro h
    have hright : dropBlanksRight (dropBlanks cs) <+: dropBlanks cs := List.rdropWhile_prefix isBlank _
    have hleft : dropBlanks cs <:+ cs := List.dropWhile_suffix isBlank
    have hfront : dropBlanks cs = cs := by
      have hlength := hright.length_le
      rw [← trim, h] at hlength
      exact hleft.eq_of_length_le hlength
    refine ⟨hfront, ?_⟩
    rw [trim, hfront] at h
    exact h
  · rintro ⟨hleft, hright⟩
    rw [trim, hleft, hright]

/-- Cutting off the blanks at the ends leaves what stands between two blank texts. -/
theorem exists_eq_trim (cs : List Char) : ∃ before behind, cs = before ++ trim cs ++ behind ∧
    before.all isBlank = true ∧ behind.all isBlank = true := by
  have hfront : cs.takeWhile isBlank ++ dropBlanks cs = cs := List.takeWhile_append_dropWhile
  have hend : trim cs ++ (dropBlanks cs).rtakeWhile isBlank = dropBlanks cs := List.rdropWhile_append_rtakeWhile
  refine ⟨cs.takeWhile isBlank, (dropBlanks cs).rtakeWhile isBlank, ?_, ?_, ?_⟩
  · rw [List.append_assoc, hend, hfront]
  · exact List.all_eq_true.mpr fun c hc => List.mem_takeWhile_imp hc
  · exact List.all_eq_true.mpr fun c hc => List.mem_rtakeWhile_imp hc

theorem trim_trim (cs : List Char) : trim (trim cs) = trim cs := by
  have htrimmed : trim cs <+: dropBlanks cs := List.rdropWhile_prefix isBlank _
  have hright : dropBlanksRight (trim cs) = trim cs := List.rdropWhile_idempotent isBlank _
  refine trim_eq_self_iff.mpr ⟨?_, hright⟩
  -- what is left begins as the text did without the blanks at its front
  unfold dropBlanks
  rw [List.dropWhile_eq_self_iff]
  intro hpos
  have hdropped : dropBlanks (dropBlanks cs) = dropBlanks cs := List.dropWhile_idempotent isBlank _
  unfold dropBlanks at hdropped htrimmed
  rw [List.dropWhile_eq_self_iff] at hdropped
  rw [htrimmed.getElem hpos]
  exact hdropped (hpos.trans_le htrimmed.length_le)

/-- No blank ends a trimmed text. -/
theorem isBlank_getLast_of_trim (h : trim cs = cs) (hne : cs ≠ []) : isBlank (cs.getLast hne) = false := by
  have hright : cs.rdropWhile isBlank = cs := (trim_eq_self_iff.mp h).2
  exact Bool.eq_false_iff.mpr (List.rdropWhile_eq_self_iff.mp hright hne)

/-- Nothing is cut off what stands between trimmed texts. -/
theorem trim_append_append (has : trim as = as) (hbs : trim bs = bs) (hasne : as ≠ []) (hbsne : bs ≠ [])
    (cs : List Char) : trim (as ++ cs ++ bs) = as ++ cs ++ bs := by
  rw [trim_eq_self_iff] at has hbs ⊢
  rw [List.append_assoc]
  refine ⟨dropBlanks_append has.1 hasne _, ?_⟩
  rw [← List.append_assoc]
  exact dropBlanksRight_append hbs.2 hbsne _

theorem trim_cons_of_isBlank {c : Char} (hc : isBlank c = true) (cs : List Char) : trim (c :: cs) = trim cs := by
  rw [trim, dropBlanks, List.dropWhile_cons_of_pos hc]
  rfl

theorem intercalate_ne_nil (sep : List Char) {t : List Char} (ht : t ≠ []) (texts : List (List Char)) :
    sep.intercalate (t :: texts) ≠ [] := by
  cases texts with
  | nil => rwa [List.intercalate_singleton]
  | cons _ _ => simp [List.intercalate_cons_cons, ht]

/-- Trimmed texts, joined, are trimmed. -/
theorem trim_intercalate (sep : List Char) {texts : List (List Char)} (htexts : ∀ t ∈ texts, t ≠ [] ∧ trim t = t) :
    trim (sep.intercalate texts) = sep.intercalate texts := by
  induction texts with
  | nil => rfl
  | cons t texts ih =>
      obtain ⟨⟨hne, ht⟩, hrest⟩ := List.forall_mem_cons.mp htexts
      cases texts with
      | nil => rwa [List.intercalate_singleton]
      | cons u texts =>
          have hjoined := intercalate_ne_nil sep (hrest u List.mem_cons_self).1 texts
          rw [List.intercalate_cons_cons]
          exact trim_append_append ht (ih hrest) hne hjoined sep

/-- Joined texts end in none of the characters that no text ends in. -/
theorem getLast?_intercalate_ne (sep : List Char) {texts : List (List Char)} {c : Char}
    (htexts : ∀ t ∈ texts, t ≠ [] ∧ t.getLast? ≠ some c) : (sep.intercalate texts).getLast? ≠ some c := by
  induction texts with
  | nil => simp
  | cons t texts ih =>
      obtain ⟨⟨-, ht⟩, hrest⟩ := List.forall_mem_cons.mp htexts
      cases texts with
      | nil => rwa [List.intercalate_singleton]
      | cons u texts =>
          have hjoined := intercalate_ne_nil sep (hrest u List.mem_cons_self).1 texts
          rw [List.intercalate_cons_cons, List.getLast?_append_of_ne_nil _ hjoined]
          exact ih hrest

end Text

/-- Texts with something around each of them are joined by what stands between two. -/
theorem flatMap_append_eq_intercalate {α : Type} (before behind : List α) (t : List α) (texts : List (List α)) :
    (t :: texts).flatMap (fun t => before ++ t ++ behind) =
      before ++ (behind ++ before).intercalate (t :: texts) ++ behind := by
  induction texts generalizing t with
  | nil => simp
  | cons u texts ih =>
      rw [List.flatMap_cons, ih u, List.intercalate_cons_cons]
      simp

namespace Template

open Text

/-! ### Clauses -/

namespace ClauseKind

/-- What is written before each text of a clause. -/
def before : ClauseKind → List Char
  | conditions => " AND ".toList
  | assignments => [' ']

/-- What is written behind it. -/
def behind : ClauseKind → List Char
  | conditions => []
  | assignments => [',']

/-- What a clause has between its texts. -/
def joint : ClauseKind → List Char
  | conditions => " AND ".toList
  | assignments => ", ".toList

theorem behind_append_before (kind : ClauseKind) : kind.behind ++ kind.before = kind.joint := by
  cases kind <;> rfl

end ClauseKind

/-- A clause of texts: nothing if there is none. -/
def joinedClause (kind : ClauseKind) (texts : List (List Char)) : List Char :=
  if texts = [] then [] else kind.keyword ++ ' ' :: kind.joint.intercalate texts

/-- A connective before a trimmed text is cut off, and nothing else, whatever the text begins with. -/
theorem dropConnective_and {cs : List Char} (h : dropBlanks cs = cs) :
    dropConnective ("AND ".toList ++ cs) = cs := by
  have hword : Sql.keyword "and" ("AND ".toList ++ cs) = some (' ' :: cs) := rfl
  rw [dropConnective, hword]
  exact h

/-- So is a comma behind a trimmed text. -/
theorem dropComma_append {cs : List Char} (h : dropBlanksRight cs = cs) : dropComma (cs ++ [',']) = cs := by
  have hcomma : isBlank ',' = false := by decide
  have hreverse : (cs ++ [',']).reverse.dropWhile isBlank = ',' :: cs.reverse := by
    rw [List.reverse_concat, List.dropWhile_cons_of_neg (by simp [hcomma])]
  unfold dropComma
  rw [hreverse]
  exact h

/-- What is cut off a body of texts. -/
theorem cut_body (kind : ClauseKind) {cs : List Char} (hne : cs ≠ []) (h : trim cs = cs) :
    kind.cut (trim (kind.before ++ cs ++ kind.behind)) = cs := by
  obtain ⟨hleft, hright⟩ := trim_eq_self_iff.mp h
  have hblank : isBlank ' ' = true := by decide
  cases kind with
  | conditions =>
      have hand : trim "AND".toList = "AND".toList := by decide
      have hbody : trim ("AND ".toList ++ cs) = "AND ".toList ++ cs :=
        trim_append_append hand h (by decide) hne [' ']
      change dropConnective (trim (' ' :: ("AND ".toList ++ cs ++ []))) = cs
      rw [trim_cons_of_isBlank hblank, List.append_nil, hbody, dropConnective_and hleft]
  | assignments =>
      have hbody : trim (cs ++ [',']) = cs ++ [','] := by
        have hcomma : trim [','] = [','] := by decide
        have hends := trim_append_append h hcomma hne (by simp) []
        rwa [List.append_nil] at hends
      change dropComma (trim (' ' :: (cs ++ [',']))) = cs
      rw [trim_cons_of_isBlank hblank, hbody, dropComma_append hright]

/-- **The text of a clause whose body is made of trimmed texts.** -/
theorem clauseChars_flatMap (kind : ClauseKind) {texts : List (List Char)}
    (htexts : ∀ t ∈ texts, t ≠ [] ∧ trim t = t) :
    clauseChars kind (texts.flatMap fun t => kind.before ++ t ++ kind.behind) = joinedClause kind texts := by
  cases texts with
  | nil => cases kind <;> rfl
  | cons t texts =>
      have hne := intercalate_ne_nil kind.joint (htexts t List.mem_cons_self).1 texts
      have htrim := trim_intercalate kind.joint htexts
      unfold clauseChars joinedClause
      rw [flatMap_append_eq_intercalate, kind.behind_append_before, cut_body kind hne htrim, htrim,
        if_neg (List.cons_ne_nil t texts)]
      cases h : kind.joint.intercalate (t :: texts) with
      | nil => exact absurd h hne
      | cons c cs => rfl

/-- Nor does a clause. -/
theorem getLast?_joinedClause_ne (kind : ClauseKind) {texts : List (List Char)} {c : Char} (hc : c ≠ ' ')
    (htexts : ∀ t ∈ texts, t ≠ [] ∧ t.getLast? ≠ some c) : (joinedClause kind texts).getLast? ≠ some c := by
  unfold joinedClause
  split
  · simp
  · rw [List.getLast?_append_cons]
    have hjoined := getLast?_intercalate_ne kind.joint htexts
    cases h : kind.joint.intercalate texts with
    | nil => simpa using hc.symm
    | cons d ds =>
        rw [h] at hjoined
        rwa [List.getLast?_cons_cons]

end Template

end SqlMapper
