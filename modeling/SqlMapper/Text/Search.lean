import SqlMapper.Text.Blank
/-!
# SqlMapper.Text.Search

Finding, cutting and replacing inside texts, as functions on lists of characters.
-/

namespace SqlMapper.Text

/-- The rest after a given beginning, if the text has it. -/
def dropStart? : List Char → List Char → Option (List Char)
  | [], cs => some cs
  | _ :: _, [] => none
  | p :: ps, c :: cs => if p == c then dropStart? ps cs else none

/-- Does a text begin with another? -/
def startsWith (start cs : List Char) : Bool := (dropStart? start cs).isSome

/-- Does a text end with another? -/
def endsWith (tail cs : List Char) : Bool := startsWith tail.reverse cs.reverse

theorem dropStart?_eq_some {p cs r : List Char} : dropStart? p cs = some r ↔ cs = p ++ r := by
  induction p generalizing cs with
  | nil => simp [dropStart?, eq_comm]
  | cons a p ih =>
    cases cs with
    | nil => simp [dropStart?]
    | cons c cs =>
      simp only [dropStart?, List.cons_append, List.cons.injEq]
      by_cases h : a = c
      · subst h
        simp [ih]
      · simp [h, Ne.symm h]

/-- Cut a text at every place where `sep` stands, at most `limit` times if a limit is given. The
separator is not empty. `skip` counts the characters of a separator that are still to be dropped. -/
def splitFrom (sep : List Char) (limit : Option Nat) (piece : List Char) (skip : Nat) :
    List Char → List (List Char)
  | [] => [piece.reverse]
  | c :: cs =>
    match skip with
    | skip + 1 => splitFrom sep limit piece skip cs
    | 0 =>
      if limit != some 0 && startsWith sep (c :: cs) then
        piece.reverse :: splitFrom sep (limit.map (· - 1)) [] (sep.length - 1) cs
      else splitFrom sep limit (c :: piece) 0 cs

/-- The pieces of a text between the places where `sep` stands. -/
def splitAt (sep : List Char) (limit : Option Nat) (cs : List Char) : List (List Char) :=
  splitFrom sep limit [] 0 cs

/-- Put `sep` between texts. -/
def joinWith (sep : List Char) : List (List Char) → List Char
  | [] => []
  | [x] => x
  | x :: y :: r => x ++ sep ++ joinWith sep (y :: r)

/-- Replace `old`, at most `limit` times if a limit is given. An empty `old` stands before every
character and at the end. -/
def replaceAll (old new : List Char) (limit : Option Nat) (cs : List Char) : List Char :=
  if old.isEmpty then
    match limit with
    | none => new ++ cs.flatMap (· :: new)
    | some 0 => cs
    | some (n + 1) =>
      let (front, back) := (cs.take n, cs.drop n)
      new ++ front.flatMap (· :: new) ++ back
  else joinWith new (splitAt old limit cs)

/-- Words between blanks, at most `limit` cuts if a limit is given; the last piece then keeps its
inner blanks. The fuel is the length of the text: every step takes a character at least. -/
def splitWords (limit : Option Nat) : Nat → List Char → List (List Char)
  | 0, _ => []
  | fuel + 1, cs =>
    match dropBlanks cs with
    | [] => []
    | c :: rest =>
      if limit == some 0 then [dropBlanksRight (c :: rest)]
      else
        let text := c :: rest
        text.takeWhile (!isBlank ·) ::
          splitWords (limit.map (· - 1)) fuel (text.dropWhile (!isBlank ·))

/-- Carriage returns, alone or before a line feed, become line feeds. -/
def unifyLineEnds : List Char → List Char
  | [] => []
  | '\r' :: '\n' :: cs => '\n' :: unifyLineEnds cs
  | '\r' :: cs => '\n' :: unifyLineEnds cs
  | c :: cs => c :: unifyLineEnds cs

/-- A text without carriage returns is left as it is. -/
theorem unifyLineEnds_of_not_mem {cs : List Char} (h : '\r' ∉ cs) : unifyLineEnds cs = cs := by
  fun_induction unifyLineEnds cs with
  | case1 => rfl
  | case2 => simp at h
  | case3 => simp at h
  | case4 c cs _ _ ih => rw [ih (fun hm => h (List.mem_cons_of_mem _ hm))]

/-- The place of the first occurrence. -/
def indexOf? (needle : List Char) : List Char → Option Nat
  | [] => if needle.isEmpty then some 0 else none
  | c :: cs =>
    if startsWith needle (c :: cs) then some 0 else (indexOf? needle cs).map (· + 1)

/-- Does a text occur in another? -/
def occursIn (needle cs : List Char) : Bool := (indexOf? needle cs).isSome

end SqlMapper.Text
