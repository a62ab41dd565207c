import SqlMapper.Text.Search
/-!
# SqlMapper.Xml.Scan

The steps that the reader of XML is made of. A step takes characters from the front of the text, or
gives up: one cause is enough, a malformed document.
-/

namespace SqlMapper.Xml

/-- A step of the reader. -/
abbrev Scan := StateT (List Char) Option

/-- May a character stand in a document? -/
def isXmlChar (c : Char) : Bool :=
  let n := c.toNat
  n == 9 || n == 10 || n == 13 || (0x20 ≤ n && n ≤ 0xd7ff) || (0xe000 ≤ n && n ≤ 0xfffd) ||
    (0x10000 ≤ n && n ≤ 0x10ffff)

/-- Is a character a blank of XML? -/
def isSpace (c : Char) : Bool := c == ' ' || c == '\t' || c == '\n' || c == '\r'

/-- The ranges of the characters beyond ASCII that a name may begin with. -/
def nameStartRanges : List (Nat × Nat) :=
  [(0xc0, 0xd6), (0xd8, 0xf6), (0xf8, 0x2ff), (0x370, 0x37d), (0x37f, 0x1fff), (0x200c, 0x200d),
    (0x2070, 0x218f), (0x2c00, 0x2fef), (0x3001, 0xd7ff), (0xf900, 0xfdcf), (0xfdf0, 0xfffd),
    (0x10000, 0xeffff)]

/-- May a name begin with a character? A colon counts, as it separates a prefix. -/
def startsName (c : Char) : Bool :=
  c.isAlpha || c == '_' || c == ':' ||
    nameStartRanges.any fun (lo, hi) => lo ≤ c.toNat && c.toNat ≤ hi

/-- May a character stand inside a name? -/
def insideName (c : Char) : Bool :=
  startsName c || c.isDigit || c == '-' || c == '.' || c.toNat == 0xb7 ||
    (0x300 ≤ c.toNat && c.toNat ≤ 0x36f) || (0x203f ≤ c.toNat && c.toNat ≤ 0x2040)

namespace Scan

/-- Give up. -/
def malformed {α : Type} : Scan α := fun _ => none

/-- Give up unless a condition holds. -/
def ensure (b : Bool) : Scan Unit := if b then pure () else malformed

/-- The next character. -/
def peek : Scan (Option Char) := return (← get).head?

/-- Pass a text if it stands here. -/
def skipIf (s : String) : Scan Bool := fun cs =>
  match Text.dropStart? s.toList cs with
  | some rest => some (true, rest)
  | none => some (false, cs)

/-- Insist on a text. -/
def expect (s : String) : Scan Unit := do ensure (← skipIf s)

/-- Take characters as long as they are of a class. -/
def takeWhile (p : Char → Bool) : Scan (List Char) := fun cs =>
  some (cs.takeWhile p, cs.dropWhile p)

/-- Pass blanks, and tell whether there were any. -/
def blanks : Scan Bool := return !(← takeWhile isSpace).isEmpty

/-- Insist on blanks. -/
def needBlanks : Scan Unit := do ensure (← blanks)

/-- A name, possibly with colons in it. -/
def name : Scan String := do
  match ← peek with
  | some c =>
    ensure (startsName c)
    return String.ofList (← takeWhile insideName)
  | none => malformed

/-- Take characters up to a text, which is passed too. -/
def upTo (s : String) : Scan (List Char) := fun cs =>
  match Text.indexOf? s.toList cs with
  | some i =>
    let taken := cs.take i
    if taken.all isXmlChar then some (taken, cs.drop (i + s.length)) else none
  | none => none

/-- A text between quotes of either kind. -/
def quotedText : Scan (List Char) := do
  if ← skipIf "\"" then upTo "\""
  else
    expect "'"
    upTo "'"

/-- Run a step over a text that it has to use up. -/
def runAll {α : Type} (step : Scan α) (cs : List Char) : Option α :=
  match step.run cs with
  | some (a, []) => some a
  | _ => none

end Scan
end SqlMapper.Xml
