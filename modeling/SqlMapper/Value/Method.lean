import SqlMapper.Value.Item
import SqlMapper.Value.Formatting
import SqlMapper.Text.Letters
/-!
# SqlMapper.Value.Method

Methods of texts, mappings and sequences that a template may call.
-/

namespace SqlMapper.Value

open SqlMapper.Text

/-- The methods of texts. -/
def textMethods : List String :=
  ["upper", "lower", "strip", "lstrip", "rstrip", "split", "rsplit", "splitlines", "startswith",
    "endswith", "replace", "join", "title", "capitalize", "find", "count", "index", "zfill",
    "isdigit", "isalpha", "isalnum", "isspace", "isupper", "islower", "swapcase", "ljust", "rjust",
    "center", "format", "encode", "casefold", "partition", "removeprefix", "removesuffix"]

/-- The methods of mappings. -/
def mappingMethods : List String := ["items", "keys", "values", "get", "copy"]

/-- The methods of lists and tuples. -/
def sequenceMethods : List String := ["index", "count"]

/-- Has a value a method of this name? -/
def hasMethod (v : Value) (name : String) : Bool :=
  match v with
  | str _ | sql _ => textMethods.contains name
  | dict _ | readOnly _ => mappingMethods.contains name
  | list _ => sequenceMethods.contains name || name == "copy"
  | tuple _ | range .. => sequenceMethods.contains name
  | _ => false

/-- Title case of a text: every letter after a non-letter begins a word. -/
def titleFrom (inWord : Bool) : List Char → List Char
  | [] => []
  | c :: cs => (if inWord then lowerChar c else titleChar c) ++ titleFrom (isCased c) cs

/-- A text with its first letter in title case and the rest in lower case. -/
def capitalize : List Char → List Char
  | [] => []
  | c :: cs => titleChar c ++ lower cs

/-- Characters of a set cut off the ends. -/
def stripChars (set : List Char) (left right : Bool) (cs : List Char) : List Char :=
  let cs := if left then cs.dropWhile set.contains else cs
  if right then (cs.reverse.dropWhile set.contains).reverse else cs

/-- Blanks, or the characters of an optional set, cut off the ends. -/
def stripText (set : Option String) (left right : Bool) (s : String) : String :=
  match set with
  | some t => String.ofList (stripChars t.toList left right s.toList)
  | none =>
    let cs := if left then dropBlanks s.toList else s.toList
    String.ofList (if right then dropBlanksRight cs else cs)

/-- Lines of a text, without their ends. -/
def lines (cs : List Char) : List (List Char) :=
  let pieces := splitAt ['\n'] none (unifyLineEnds cs)
  if pieces.getLast? == some [] then pieces.dropLast else pieces

/-- An argument by position or by name. -/
def argument? (args : List Value) (named : List (String × Value)) (i : Nat) (name : String) :
    Option Value :=
  args[i]?.or (named.lookup name)

/-- An argument that is a text. -/
def textArgument (method : String) (v : Value) : Result String :=
  match v.text? with
  | some s => .ok s
  | none => .error (.other .type (method ++ " argument must be str, not " ++ v.typeName))

/-- Whether some text, or one of several, begins or ends a text. -/
def affix (method : String) (test : List Char → Bool) (v : Value) : Result Value :=
  match v with
  | tuple xs => .ok (bool (xs.any fun x => x.text?.any fun s => test s.toList))
  | v =>
    match v.text? with
    | some s => .ok (bool (test s.toList))
    | none => .error (.other .type
        (method ++ " first arg must be str or a tuple of str, not " ++ v.typeName))

/-- Bring a text to a least width with a fill character. -/
def justify (left right : Bool) (width : Int) (fill : Char) (s : String) : String :=
  let n := width.toNat - s.length
  let pad (k : Nat) : String := String.ofList (List.replicate k fill)
  if left && right then
    let before := n / 2 + (if n % 2 = 1 && width.toNat % 2 = 1 then 1 else 0)
    pad before ++ s ++ pad (n - before)
  else if left then pad n ++ s
  else s ++ pad n

/-- Texts joined by a separator. -/
def joinTexts (sep : String) : Nat → List Value → Result (List String)
  | _, [] => .ok []
  | i, v :: vs =>
    match v.text? with
    | some s => (s :: ·) <$> joinTexts sep (i + 1) vs
    | none => .error (.other .type ("sequence item " ++ toString i ++
        ": expected str instance, " ++ v.typeName ++ " found"))

/-- Call a method of a text. -/
def callText (s : String) (name : String) (args : List Value) (named : List (String × Value)) :
    Result Value := do
  let arg (i : Nat) (key : String) : Option Value := argument? args named i key
  let optionalText (v : Option Value) : Result (Option String) :=
    match v with
    | none | some null => .ok none
    | some v => some <$> textArgument name v
  let ofChars (cs : List Char) : Value := str (String.ofList cs)
  let required (i : Nat) (key : String) : Result Value :=
    match arg i key with
    | some v => .ok v
    | none => .error (.other .type (name ++ "() takes at least " ++ toString (i + 1) ++
        " argument (" ++ toString args.length ++ " given)"))
  match name with
  | "upper" => return ofChars (upper s.toList)
  | "lower" | "casefold" => return ofChars (lower s.toList)
  | "title" => return ofChars (titleFrom false s.toList)
  | "capitalize" => return ofChars (capitalize s.toList)
  | "swapcase" =>
    return ofChars (s.toList.flatMap fun c => if lowerChar c == [c] then upperChar c else lowerChar c)
  | "strip" => return str (stripText (← optionalText (arg 0 "")) true true s)
  | "lstrip" => return str (stripText (← optionalText (arg 0 "")) true false s)
  | "rstrip" => return str (stripText (← optionalText (arg 0 "")) false true s)
  | "split" | "rsplit" =>
    let limit ← match arg 1 "maxsplit" with
      | none => pure none
      | some v => do
        let n ← v.toIndex
        pure (if n < 0 then none else some n.toNat)
    match ← optionalText (arg 0 "sep") with
    | none => return list ((splitWords limit (s.length + 1) s.toList).map ofChars)
    | some sep =>
      if sep.isEmpty then throw (.other .value "empty separator")
      return list ((splitAt sep.toList limit s.toList).map ofChars)
  | "splitlines" => return list ((lines s.toList).map ofChars)
  | "startswith" => affix "startswith" (startsWith · s.toList) (← required 0 "")
  | "endswith" => affix "endswith" (endsWith · s.toList) (← required 0 "")
  | "replace" =>
    let old ← textArgument "replace()" (← required 0 "")
    let new ← textArgument "replace()" (← required 1 "")
    let limit ← match arg 2 "count" with
      | none => pure none
      | some v => do
        let n ← v.toIndex
        pure (if n < 0 then none else some n.toNat)
    return ofChars (replaceAll old.toList new.toList limit s.toList)
  | "join" =>
    let xs ← (← required 0 "").items
    return str (String.intercalate s (← joinTexts s 0 xs))
  | "find" | "index" =>
    let t ← textArgument name (← required 0 "")
    match indexOf? t.toList s.toList with
    | some i => return int i
    | none => if name == "find" then return int (-1) else throw (.other .value "substring not found")
  | "count" =>
    let t ← textArgument name (← required 0 "")
    if t.isEmpty then return int (s.length + 1)
    return int ((splitAt t.toList none s.toList).length - 1 : Int)
  | "zfill" =>
    let width ← (← required 0 "").toIndex
    let (sign, body) := match s.toList with
      | '-' :: cs => ("-", String.ofList cs)
      | '+' :: cs => ("+", String.ofList cs)
      | _ => ("", s)
    return str (sign ++ justify true false (width - sign.length) '0' body)
  | "ljust" | "rjust" | "center" =>
    let width ← (← required 0 "").toIndex
    let fill := ((arg 1 "").bind text?).bind (·.toList.head?)
    return str (justify (name != "ljust") (name != "rjust") width (fill.getD ' ') s)
  | "isdigit" => return bool (!s.isEmpty && s.toList.all Text.isDigit)
  | "isalnum" => return bool (!s.isEmpty && s.toList.all fun c => isWord c && c != '_')
  | "isalpha" =>
    return bool (!s.isEmpty && s.toList.all fun c => isWord c && c != '_' && !Text.isDigit c)
  | "isspace" => return bool (!s.isEmpty && s.toList.all isBlank)
  | "isupper" => return bool (s.toList.any isCased && upper s.toList == s.toList)
  | "islower" => return bool (s.toList.any isCased && lower s.toList == s.toList)
  | "partition" =>
    let sep ← textArgument name (← required 0 "")
    match indexOf? sep.toList s.toList with
    | some i =>
      return tuple [ofChars (s.toList.take i), str sep, ofChars (s.toList.drop (i + sep.length))]
    | none => return tuple [str s, str "", str ""]
  | "removeprefix" =>
    let t ← textArgument name (← required 0 "")
    return ofChars ((dropStart? t.toList s.toList).getD s.toList)
  | "removesuffix" =>
    let t ← textArgument name (← required 0 "")
    return ofChars ((dropStart? t.toList.reverse s.toList.reverse).getD s.toList.reverse).reverse
  | "encode" => return bytes s.toUTF8.toList
  | _ => throw (.other .type ("'" ++ name ++ "' cannot be called"))

/-- Call a method of a mapping. -/
def callMapping (v : Value) (entries : List (Value × Value)) (name : String) (args : List Value) :
    Result Value :=
  match name with
  | "items" => .ok (view .items entries)
  | "keys" => .ok (view .keys entries)
  | "values" => .ok (view .values entries)
  | "copy" => .ok v
  | _ =>
    match args with
    | [] => .error (.other .type "get expected at least 1 argument, got 0")
    | key :: rest => do
      hashable key
      return (lookup? key entries).getD (rest.headD null)

/-- Call a method of a sequence. -/
def callSequence (v : Value) (xs : List Value) (name : String) (args : List Value) :
    Result Value :=
  match name, args with
  | "copy", _ => .ok v
  | "count", x :: _ => .ok (int (xs.filter (sameKey x)).length)
  | "index", x :: _ =>
    match xs.findIdx? (sameKey x) with
    | some i => .ok (int i)
    | none => .error (.other .value (x.shownOrEmpty ++ " is not in " ++ v.typeName))
  | _, _ => .error (.other .type (name ++ "() takes exactly one argument (0 given)"))

/-- Call a method. -/
def callMethod (v : Value) (name : String) (args : List Value) (named : List (String × Value)) :
    Result Value :=
  match v with
  | str s | sql s => callText s name args named
  | dict es | readOnly es => callMapping v es name args
  | list xs | tuple xs => callSequence v xs name args
  | range a b s => callSequence v (rangeItems a b s) name args
  | v => .error (.notCallable v.typeName)

end SqlMapper.Value
