/-!
# SqlMapper.Text.Blank

The characters that count as blank, and the functions that cut them off the ends of a text. The
class is Unicode's white space together with the four information separators U+001C to U+001F; the
trimming of clauses, statement bodies and identifiers all use this one class.
-/

namespace SqlMapper.Text

/-- Does a character count as blank? -/
def isBlank (c : Char) : Bool :=
  let n := c.val
  (9 ≤ n && n ≤ 13) || (28 ≤ n && n ≤ 32) || n == 0x85 || n == 0xa0 || n == 0x1680 ||
    (0x2000 ≤ n && n ≤ 0x200a) || n == 0x2028 || n == 0x2029 || n == 0x202f || n == 0x205f ||
    n == 0x3000

/-- Every character that core calls white space is blank here. -/
theorem isBlank_of_isWhitespace {c : Char} (h : c.isWhitespace = true) : isBlank c = true := by
  simp only [Char.isWhitespace, Bool.or_eq_true, decide_eq_true_eq] at h
  rcases h with ((rfl | rfl) | rfl) | rfl <;> decide

/-- The text without the blanks at its front. -/
def dropBlanks (cs : List Char) : List Char := cs.dropWhile isBlank

/-- The text without the blanks at its end. -/
def dropBlanksRight (cs : List Char) : List Char := (cs.reverse.dropWhile isBlank).reverse

/-- The text without the blanks at either end. -/
def trim (cs : List Char) : List Char := dropBlanksRight (dropBlanks cs)

@[simp] theorem dropBlanks_nil : dropBlanks [] = [] := rfl

@[simp] theorem dropBlanksRight_nil : dropBlanksRight [] = [] := rfl

@[simp] theorem trim_nil : trim [] = [] := rfl

end SqlMapper.Text
