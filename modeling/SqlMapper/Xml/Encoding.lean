import SqlMapper.Text.Letters
/-!
# SqlMapper.Xml.Encoding

From bytes to characters. A byte order mark decides, or the look of the first bytes, or the encoding
that the document declares in its first line; without any of these the bytes are UTF-8.
-/

namespace SqlMapper.Xml

/-- Encodings. -/
inductive Encoding
  | utf8
  | utf16 (bigEndian : Bool)
  | latin1
  | ascii
  | windows1252
  deriving Repr, DecidableEq

namespace Encoding

/-- The encoding of one byte per character that a declared name stands for, or UTF-8. -/
def ofName? (name : List Char) : Option Encoding :=
  match String.ofList (Text.upper name) with
  | "UTF-8" | "UTF8" => some utf8
  | "ISO-8859-1" | "ISO8859-1" | "ISO_8859-1" | "ISO-LATIN-1" | "LATIN1" | "L1" | "CP819"
  | "IBM819" => some latin1
  | "ASCII" | "US-ASCII" | "US" | "ISO646-US" | "CP367" => some ascii
  | "WINDOWS-1252" | "CP1252" | "MS-ANSI" => some windows1252
  | _ => none

/-- Pairs of bytes as units of 16 bits; a single byte at the end is an error. -/
def units (bigEndian : Bool) : List UInt8 → Option (List Nat)
  | [] => some []
  | [_] => none
  | a :: b :: rest => do
    let (hi, lo) := if bigEndian then (a, b) else (b, a)
    return (hi.toNat * 256 + lo.toNat) :: (← units bigEndian rest)

/-- Units of 16 bits as characters; surrogates have to come in pairs. -/
def ofUnits : List Nat → Option (List Char)
  | [] => some []
  | u :: rest =>
    if u < 0xd800 ∨ 0xe000 ≤ u then do return Char.ofNat u :: (← ofUnits rest)
    else if u < 0xdc00 then
      match rest with
      | v :: rest =>
        if 0xdc00 ≤ v ∧ v < 0xe000 then do
          return Char.ofNat (0x10000 + (u - 0xd800) * 0x400 + (v - 0xdc00)) :: (← ofUnits rest)
        else none
      | [] => none
    else none

/-- The characters of the bytes 0x80 to 0x9f in the encoding `windows1252`; 0 where there is none. -/
def windowsBlock : List Nat :=
  [0x20ac, 0, 0x201a, 0x192, 0x201e, 0x2026, 0x2020, 0x2021, 0x2c6, 0x2030, 0x160, 0x2039, 0x152,
    0, 0x17d, 0, 0, 0x2018, 0x2019, 0x201c, 0x201d, 0x2022, 0x2013, 0x2014, 0x2dc, 0x2122, 0x161,
    0x203a, 0x153, 0, 0x17e, 0x178]

/-- The character of one byte. -/
def ofByte? (e : Encoding) (b : UInt8) : Option Char :=
  let n := b.toNat
  match e with
  | latin1 => some (Char.ofNat n)
  | windows1252 =>
    if 0x80 ≤ n ∧ n < 0xa0 then
      match windowsBlock[n - 0x80]? with
      | some 0 | none => none
      | some m => some (Char.ofNat m)
    else some (Char.ofNat n)
  | _ => if n < 0x80 then some (Char.ofNat n) else none

/-- The characters of bytes. -/
def decode (e : Encoding) (bytes : List UInt8) : Option (List Char) :=
  match e with
  | utf8 => (String.fromUTF8? ⟨bytes.toArray⟩).map (·.toList)
  | utf16 bigEndian => (units bigEndian bytes).bind ofUnits
  | e => bytes.mapM e.ofByte?

end Encoding
end SqlMapper.Xml
