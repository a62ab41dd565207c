import SqlMapper.Text.Search
/-!
# SqlMapper.Proofs.Text.Pieces

Texts taken apart at a character. There is one way to cut a text at the last place where the character stands
(`append_cons_inj`), and the pieces between all of its places are made of the characters of the text
(`mem_of_mem_splitAt`).
-/

namespace SqlMapper.Text

/-! ### One cut -/

theorem eq_nil_of_cons_eq_append {c : Char} {cs ds es : List Char} (hds : c ∉ ds) (h : c :: ds = cs ++ c :: es) :
    cs = [] := by
  cases cs with
  | nil => rfl
  | cons d cs =>
      rw [List.cons_append] at h
      rw [(List.cons.inj h).2] at hds
      exact absurd (List.mem_append_right cs List.mem_cons_self) hds

/-- A text is cut at its last occurrence of a character in one way only. -/
theorem append_cons_inj {c : Char} {as bs ds es : List Char} (hds : c ∉ ds) (hes : c ∉ es)
    (h : as ++ c :: ds = bs ++ c :: es) : as = bs ∧ ds = es := by
  have same : as = bs := by
    rcases List.append_eq_append_iff.mp h with ⟨cs, hbs, hcs⟩ | ⟨cs, has, hcs⟩
    · rw [hbs, eq_nil_of_cons_eq_append hds hcs, List.append_nil]
    · rw [has, eq_nil_of_cons_eq_append hes hcs, List.append_nil]
  subst same
  exact ⟨rfl, (List.cons.inj (List.append_cancel_left h)).2⟩

/-! ### All pieces -/

/-- What a piece is made of is in the text or has been collected before. -/
theorem mem_of_mem_splitFrom {sep : List Char} {limit : Option Nat} {piece : List Char} {skip : Nat}
    {cs p : List Char} (hp : p ∈ splitFrom sep limit piece skip cs) {c : Char} (hc : c ∈ p) : c ∈ piece ∨ c ∈ cs := by
  fun_induction splitFrom sep limit piece skip cs with
  | case1 limit piece skip =>
      rw [List.mem_singleton.mp hp, List.mem_reverse] at hc
      exact .inl hc
  | case2 limit piece d cs skip ih => exact (ih hp).imp_right (List.mem_cons_of_mem d)
  | case3 limit piece d cs _ ih =>
      rcases List.mem_cons.mp hp with rfl | hp
      · exact .inl (List.mem_reverse.mp hc)
      · exact .inr (List.mem_cons_of_mem d ((ih hp).resolve_left List.not_mem_nil))
  | case4 limit piece d cs _ ih =>
      rcases ih hp with h | h
      · rcases List.mem_cons.mp h with rfl | h
        · exact .inr List.mem_cons_self
        · exact .inl h
      · exact .inr (List.mem_cons_of_mem d h)

theorem mem_of_mem_splitAt {sep : List Char} {limit : Option Nat} {cs p : List Char} (hp : p ∈ splitAt sep limit cs)
    {c : Char} (hc : c ∈ p) : c ∈ cs :=
  (mem_of_mem_splitFrom hp hc).resolve_left List.not_mem_nil

end SqlMapper.Text
