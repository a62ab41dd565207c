import SqlMapper.Text.Printable
/-!
# SqlMapper.Text.Quoted

The quoted form of a text or of bytes, in which messages and nested values show them. Single quotes
surround it, or double ones if the text holds single quotes only; the quote, the backslash and
whatever is not printable are escaped.
-/

namespace SqlMapper.Text

/-- The last `width` hexadecimal digits of a number. -/
def hexDigits (width n : Nat) : List Char :=
  let ds := Nat.toDigits 16 n
  List.replicate (width - ds.length) '0' ++ ds

/-- The quote that surrounds a text: a double quote only where that saves escaping. -/
def chooseQuote (cs : List Char) : Char :=
  if cs.contains '\'' && !cs.contains '"' then '"' else '\''

/-- A code point as an escape of the least sufficient width. -/
def escapeCode (n : Nat) : List Char :=
  if n < 0x100 then '\\' :: 'x' :: hexDigits 2 n
  else if n < 0x10000 then '\\' :: 'u' :: hexDigits 4 n
  else '\\' :: 'U' :: hexDigits 8 n

/-- One character inside quotes. -/
def quoteChar (quote c : Char) : List Char :=
  if c == quote || c == '\\' then ['\\', c]
  else if c == '\n' then ['\\', 'n']
  else if c == '\r' then ['\\', 'r']
  else if c == '\t' then ['\\', 't']
  else if isPrintable c then [c]
  else escapeCode c.toNat

/-- A text in quotes. -/
def quoted (s : String) : String :=
  let q := chooseQuote s.toList
  String.ofList (q :: s.toList.flatMap (quoteChar q) ++ [q])

/-- One byte inside quotes: everything outside ASCII is escaped. -/
def quoteByte (quote : Char) (b : UInt8) : List Char :=
  if b.toNat < 128 then quoteChar quote (Char.ofNat b.toNat) else escapeCode b.toNat

/-- Bytes in quotes, marked by a `b`. -/
def quotedBytes (bs : List UInt8) : String :=
  let q := chooseQuote (bs.map fun b => Char.ofNat b.toNat)
  String.ofList ('b' :: q :: bs.flatMap (quoteByte q) ++ [q])

end SqlMapper.Text
