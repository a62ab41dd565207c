import SqlMapper.Template.Args
import SqlMapper.Template.Test
import SqlMapper.Value.Sort
/-!
# SqlMapper.Template.Filter

The filters of templates. Those that write SQL are in `SqlMapper.Sql.Literal`; the others here work
on texts, numbers and sequences. Filters over sequences give streams, whose elements are worked out
in order and whose failures surface only when the stream is read that far.
-/

namespace SqlMapper.Template

/-- The function behind a filter, as messages name it, the parameters that the filter fills itself,
and those that a template may fill. Filters that are not listed take what they are given. -/
def filterSignature? (name : String) : Option (String × List String × List Param) :=
  let optional (names : List String) : List Param :=
    names.map fun n => { name := n, default := some .null }
  match name with
  | "capitalize" | "lower" | "title" | "upper" => some ("do_" ++ name, ["s"], [])
  | "default" | "d" => some ("do_default", ["value"], optional ["default_value", "boolean"])
  | "float" => some ("do_float", ["value"], optional ["default"])
  | "int" => some ("do_int", ["value"], optional ["default", "base"])
  | "join" => some ("sync_do_join", ["eval_ctx", "value"], optional ["d", "attribute"])
  | "list" => some ("sync_do_list", ["value"], [])
  | "replace" =>
    some ("do_replace", ["eval_ctx", "s"],
      [{ name := "old" }, { name := "new" }] ++ optional ["count"])
  | "reverse" => some ("do_reverse", ["value"], [])
  | "round" => some ("do_round", ["value"], optional ["precision", "method"])
  | "sort" =>
    some ("do_sort", ["environment", "value"], optional ["reverse", "case_sensitive", "attribute"])
  | "sum" => some ("sync_do_sum", ["environment", "iterable"], optional ["attribute", "start"])
  | "trim" => some ("do_trim", ["value"], optional ["chars"])
  | "unique" | "min" | "max" =>
    some ("do_" ++ name, ["environment", "value"], optional ["case_sensitive", "attribute"])
  | "safe" => some ("sql_raw", ["value"], [])
  | _ => (Sql.Filter.ofName? name).map fun _ => (name, ["value"], [])

/-- Check that the arguments of a filter fit its parameters. -/
def checkFilterArgs (name : String) (args : Args) : Result Unit :=
  match filterSignature? name with
  | none => .ok ()
  | some (fn, own, params) => do
    let ownParams : List Param := own.map fun n => { name := n }
    let _ ← Args.fill fn (ownParams ++ params)
      { args with positional := own.map (fun _ => Value.null) ++ args.positional }
    return ()

/-- Elements worked out one after the other, up to the first failure. -/
def workOut (f : Value → Run (Option Value)) : List Value → Run (List Value × Option Failure)
  | [] => return ([], none)
  | x :: xs => fun s =>
    match f x s with
    | .ok (y, s) =>
      match workOut f xs s with
      | .ok ((ys, e), s) => .ok ((y.toList ++ ys, e), s)
      | .error e => .error e
    | .error (.failed e) => .ok (([], some e), s)
    | .error .outOfFuel => .error .outOfFuel

/-- A stream of the elements that a function keeps. -/
def generate (f : Value → Run (Option Value)) (xs : List Value) : Run Value := do
  let (ys, failure) ← workOut f xs
  Store.streamOf "generator" ys failure

/-- A text in lower case, any other value as it is: the key of comparisons that ignore case. -/
def ignoreCase (v : Value) : Value :=
  match v.text? with
  | some s => .str (String.ofList (Text.lower s.toList))
  | none => v

/-- A value without regard to case, unless case counts. -/
def caseKey (caseSensitive : Bool) (v : Value) : Value := if caseSensitive then v else ignoreCase v

/-- Escape the characters that have a meaning in markup. -/
def escapeMarkup (s : String) : String :=
  String.ofList (s.toList.flatMap fun c =>
    match c with
    | '&' => "&amp;".toList
    | '<' => "&lt;".toList
    | '>' => "&gt;".toList
    | '\'' => "&#39;".toList
    | '"' => "&#34;".toList
    | c => [c])

/-- Words with a capital first letter. Blanks, hyphens and opening brackets separate words. -/
def titleWords (inWord : Bool) : List Char → List Char
  | [] => []
  | c :: cs =>
    let separator := Text.isBlank c || c == '-' || c == '(' || c == '[' || c == '<' ||
      c.toNat == 0x7b
    if separator then c :: titleWords false cs
    else (if inWord then Text.lowerChar c else Text.upperChar c) ++ titleWords true cs

/-- Number of words. -/
def countWords (inWord : Bool) : List Char → Nat
  | [] => 0
  | c :: cs =>
    let w := Text.isWord c
    (if w && !inWord then 1 else 0) + countWords w cs

/-- The first `n` elements, then the next `n`, and so on; the fuel is the number of elements. -/
def groupsOf (n : Nat) : Nat → List Value → List (List Value)
  | 0, _ => []
  | _, [] => []
  | fuel + 1, xs => xs.take n :: groupsOf n fuel (xs.drop n)

/-- An integer converted by the rules of a filter: what is no number becomes the default. -/
def intOrDefault (v d : Value) : Result Value :=
  match v.toInt with
  | .ok n => .ok (.int n)
  | .error e =>
    if e.family = .type ∨ e.family = .value then
      match v.toFloat >>= fun x => Value.toInt (.float x) with
      | .ok n => .ok (.int n)
      | .error e =>
        if e.family = .type ∨ e.family = .value ∨ e.family = .overflow then .ok d else .error e
    else .error e

/-- The type of the stream that reads a sequence backwards. -/
def reverseType : Value → String
  | .list _ => "list_reverseiterator"
  | .range .. => "range_iterator"
  | .dict _ => "dict_reversekeyiterator"
  | _ => "reversed"

/-- A number rounded to a number of places. -/
def roundValue (v : Value) (places : Int) (method : String) : Result Value := do
  match method with
  | "common" =>
    match v with
    | .bool _ | .int _ =>
      let n ← v.toInt
      if 0 ≤ places then return .int n
      let unit := Number.tenTo (-places).toNat
      let r : Int := Number.roundHalfEven n.natAbs unit * unit
      return .int (if n < 0 then -r else r)
    | .float x => return .float (Number.roundTo x places)
    | .absent _ why => throw (.missing why)
    | v => throw (.other .type ("type " ++ v.typeName ++ " doesn't define __round__ method"))
  | _ =>
    let power := Value.arith .pow (.int 10) (.int places)
    let scaled ← (← v.arith .mul (← power)).toFloat
    let whole := if method == "ceil" then scaled.ceil else scaled.floor
    let n ← Value.toInt (.float whole)
    Value.arith .div (.int n) (← power)

/-- Filters that give a text for a text. -/
def textFilter? (name : String) (s : String) : Option String :=
  match name with
  | "upper" => some (String.ofList (Text.upper s.toList))
  | "lower" => some (String.ofList (Text.lower s.toList))
  | "title" => some (String.ofList (titleWords false s.toList))
  | "capitalize" => some (String.ofList (Value.capitalize s.toList))
  | "escape" | "e" | "forceescape" => some (escapeMarkup s)
  | _ => none

/-- Cut a text to a length, at a blank if words are to stay whole. -/
def truncateText (s : String) (length : Nat) (killWords : Bool) (ending : String) (leeway : Nat) :
    String :=
  let cs := s.toList
  if cs.length ≤ length + leeway then s
  else
    let kept := cs.take (length - ending.length)
    let kept :=
      if killWords then kept
      else match kept.reverse.dropWhile (· != ' ') with
        | [] => kept
        | _ :: r => r.reverse
    String.ofList kept ++ ending

/-- A text with its lines moved to the right. -/
def indentText (s indention : String) (first blank : Bool) : String :=
  let ls := (Value.lines (s.toList ++ ['\n'])).map String.ofList
  match ls with
  | [] => if first then indention else ""
  | l :: rest =>
    let moved := rest.map fun m => if m.isEmpty && !blank then m else indention ++ m
    (if first then indention else "") ++ String.intercalate "\n" (l :: moved)

/-- The paths that an argument names, separated by commas. -/
def sortPaths (path : Value) : List (List Value) :=
  match path.text? with
  | some s => (Text.splitAt [','] none s.toList).map fun p => pathKeys (.str (String.ofList p))
  | none => [pathKeys path]

/-- The test that `select` and its kin apply: the truth of the value unless a test is named. -/
def chosenTest (args : List Value) (v : Value) : Run Bool := do
  match args with
  | [] => liftResult v.truth
  | name :: rest =>
    match name.text? with
    | some n => liftResult (applyTest n v rest)
    | none =>
      let shown ← liftResult name.shown
      fail (.template ("No test named " ++ shown ++ "."))

/-- A filter, those apart that apply other filters. -/
def applyPlain (ctx : Context) (name : String) (v : Value) (args : Args) : Run Value := do
  liftResult (checkFilterArgs name args)
  let pathOf (i : Nat) : Value := (args.get? i "attribute").getD .null
  let onText (f : String → Result Value) : Run Value := do
    let s ← liftResult v.text
    liftResult (f s)
  let nothingBut (e : Failure) : Run Value := Store.streamOf "generator" [] (some e)
  match Sql.Filter.ofName? name with
  | some f =>
    let v ← match f, v with
      | .inList, .cell (.stream _) _ => do pure (.list (← Store.items v))
      | _, v => pure v
    return .sql (← liftResult (f.apply v))
  | none =>
  match name with
  | "default" | "d" =>
    let d := (args.get? 0 "default_value").getD (.str "")
    if !isDefined v then return d
    if ← liftResult (args.flag 1 "boolean") then
      return if ← liftResult v.truth then v else d
    return v
  | "length" | "count" => return .int (← liftResult v.length)
  | "string" =>
    if v.text?.isSome then return v
    return .str (← liftResult v.text)
  | "upper" | "lower" | "title" | "capitalize" | "escape" | "e" | "forceescape" =>
    onText fun s => .ok (.str ((textFilter? name s).getD s))
  | "trim" =>
    let chars ← match args.get? 0 "chars" with
      | none | some .null => pure none
      | some c => some <$> liftResult (Value.textArgument "strip" c)
    onText fun s => .ok (.str (Value.stripText chars true true s))
  | "replace" =>
    let old ← liftResult ((args.get? 0 "old").getD .null).text
    let new ← liftResult ((args.get? 1 "new").getD .null).text
    let limit ← match args.get? 2 "count" with
      | none | some .null => pure none
      | some c => do
        let n ← liftResult c.toIndex
        pure (if n < 0 then none else some n.toNat)
    onText fun s =>
      .ok (.str (String.ofList (Text.replaceAll old.toList new.toList limit s.toList)))
  | "join" =>
    let sep ← liftResult ((args.get? 0 "d").getD (.str "")).text
    let xs ← Store.items v
    let xs ← xs.mapM (follow ctx none (pathKeys (pathOf 1)))
    return .str (String.intercalate sep (← liftResult (xs.mapM Value.text)))
  | "list" => return .list (← Store.items v)
  | "first" =>
    match v with
    | .cell (.stream _) ref =>
      match ← Store.get ref with
      | .stream (x :: xs) e =>
        Store.put ref (.stream xs e)
        return x
      | _ =>
        let _ ← Store.drain ref
        return ctx.absent (.because "No first item, sequence was empty.")
    | v =>
      return (← Store.items v).headD (ctx.absent (.because "No first item, sequence was empty."))
  | "last" =>
    match v with
    | .set .. | .cell .. | .bool _ | .int _ | .float _ | .null =>
      fail (.other .type ("'" ++ v.typeName ++ "' object is not reversible"))
    | v =>
      return (← Store.items v).getLastD (ctx.absent (.because "No last item, sequence was empty."))
  | "reverse" =>
    match v with
    | .str s | .sql s => return .str (String.ofList s.toList.reverse)
    | .set .. | .cell .. | .entity .. => return .list (← Store.items v).reverse
    | v =>
      match v.items with
      | .ok xs => Store.streamOf (reverseType v) xs.reverse none
      | .error (.missing why) => fail (.missing why)
      | .error _ => fail (.template "argument must be iterable")
  | "sort" =>
    let reverse ← liftResult (args.flag 0 "reverse")
    let caseSensitive ← liftResult (args.flag 1 "case_sensitive")
    let paths := sortPaths (pathOf 2)
    let xs ← Store.items v
    let keyed ← xs.mapM fun x => do
      let keys ← paths.mapM fun p => follow ctx none p x
      return Value.tuple [.list (keys.map (caseKey caseSensitive)), x]
    let part (i : Nat) (p : Value) : Result Value := .ok ((p.item? (.int i)).getD .null)
    let sorted ← liftResult (Value.sortBy (part 0) reverse keyed)
    return .list (← liftResult (sorted.mapM (part 1)))
  | "dictsort" =>
    let caseSensitive ← liftResult (args.flag 0 "case_sensitive")
    let by_ ← liftResult ((args.get? 1 "by").getD (.str "key")).text
    let reverse ← liftResult (args.flag 2 "reverse")
    if by_ != "key" && by_ != "value" then
      fail (.template "You can only sort by either \"key\" or \"value\"")
    match v with
    | .dict es | .readOnly es =>
      let key (p : Value) : Result Value :=
        .ok (caseKey caseSensitive ((p.item? (.int (if by_ == "key" then 0 else 1))).getD .null))
      return .list (← liftResult (Value.sortBy key reverse (es.map fun (k, x) => .tuple [k, x])))
    | .absent _ why => fail (.missing why)
    | v => fail (.other .attribute ("'" ++ v.typeName ++ "' object has no attribute 'items'"))
  | "items" =>
    match v with
    | .dict es | .readOnly es =>
      Store.streamOf "generator" (es.map fun (k, x) => .tuple [k, x]) none
    | .absent .. => Store.streamOf "generator" [] none
    | _ => nothingBut (.other .type "Can only get item pairs from a mapping.")
  | "unique" =>
    let caseSensitive ← liftResult (args.flag 0 "case_sensitive")
    let keys := pathKeys (pathOf 1)
    let xs ← Store.items v
    let keyed ← xs.mapM fun x => do
      let k := caseKey caseSensitive (← follow ctx none keys x)
      liftResult k.hashable
      return (k, x)
    let kept := keyed.foldl (fun seen (k, x) =>
      if seen.any fun (k', _) => Value.sameKey k k' then seen else seen ++ [(k, x)]) []
    Store.streamOf "generator" (kept.map (·.2)) none
  | "min" | "max" =>
    let caseSensitive ← liftResult (args.flag 0 "case_sensitive")
    let keys := pathKeys (pathOf 1)
    let keyed ← (← Store.items v).mapM fun x => do
      return (caseKey caseSensitive (← follow ctx none keys x), x)
    match keyed with
    | [] => return ctx.absent (.because "No aggregated item, sequence was empty.")
    | x :: xs => liftResult (Value.extreme (name == "max") x xs)
  | "sum" =>
    let keys := pathKeys ((args.get? 0 "attribute").getD .null)
    let start := (args.get? 1 "start").getD (.int 0)
    let xs ← Store.items v
    if start.text?.isSome then
      fail (.other .type "sum() can't sum strings [use ''.join(seq) instead]")
    let xs ← xs.mapM (follow ctx none keys)
    liftResult (xs.foldlM (fun acc x => acc.arith .add x) start)
  | "abs" =>
    match v with
    | .bool b => return .int (if b then 1 else 0)
    | .int n => return .int n.natAbs
    | .float x => return .float x.abs
    | v => fail (.operand "abs()" v.typeName)
  | "round" =>
    let places ← liftResult (args.int 0 "precision" 0)
    let method ← liftResult ((args.get? 1 "method").getD (.str "common")).text
    if method != "common" && method != "ceil" && method != "floor" then
      fail (.template "method must be common, ceil or floor")
    liftResult (roundValue v places method)
  | "int" => liftResult (intOrDefault v ((args.get? 0 "default").getD (.int 0)))
  | "float" =>
    match v.toFloat with
    | .ok x => return .float x
    | .error e =>
      if e.family = .type ∨ e.family = .value then
        return (args.get? 0 "default").getD (.float 0.0)
      else fail e
  | "batch" =>
    let n ← liftResult (args.int 0 "linecount" 1)
    let groups := groupsOf n.toNat (← Store.items v).length (← Store.items v)
    let fill := args.get? 1 "fill_with"
    let filled := groups.map fun g =>
      match fill with
      | none | some .null => Value.list g
      | some f => .list (g ++ List.replicate (n.toNat - g.length) f)
    Store.streamOf "generator" filled none
  | "attr" =>
    let key ← liftResult ((args.get? 0 "name").getD .null).text
    return (← ownAttribute ctx v key).getD (ctx.absent (.attribute v.description key))
  | "format" =>
    if !args.positional.isEmpty && !args.named.isEmpty then
      fail (.template "can't handle positional and keyword arguments at the same time")
    let given : Value :=
      if args.named.isEmpty then .tuple args.positional
      else .dict (args.named.map fun (k, x) => (.str k, x))
    onText fun s => Value.str <$> Formatting.format s given
  | "center" =>
    let width ← liftResult (args.int 0 "width" 80)
    onText fun s => .ok (.str (Value.justify true true width ' ' s))
  | "wordcount" => onText fun s => .ok (.int (countWords false s.toList))
  | "truncate" =>
    let length ← liftResult (args.int 0 "length" 255)
    let kill ← liftResult (args.flag 1 "killwords")
    let ending ← liftResult ((args.get? 2 "end").getD (.str "...")).text
    let leeway ← liftResult (args.int 3 "leeway" 5)
    onText fun s => .ok (.str (truncateText s length.toNat kill ending leeway.toNat))
  | "indent" =>
    let indention ← match args.get? 0 "width" with
      | none => pure "    "
      | some w =>
        match w.text? with
        | some s => pure s
        | none => do
          let n ← liftResult w.toIndex
          pure (String.ofList (List.replicate n.toNat ' '))
    let first ← liftResult (args.flag 1 "first")
    let blank ← liftResult (args.flag 2 "blank")
    onText fun s => .ok (.str (indentText s indention first blank))
  | "pprint" => return .str (← liftResult v.shown)
  | "select" | "reject" =>
    let keep := name == "select"
    if !(← liftResult v.truth) then return ← Store.streamOf "generator" [] none
    let xs ← Store.items v
    generate (fun x => do
      return if (← chosenTest args.positional x) == keep then some x else none) xs
  | "selectattr" | "rejectattr" =>
    let keep := name == "selectattr"
    if !(← liftResult v.truth) then return ← Store.streamOf "generator" [] none
    let xs ← Store.items v
    match args.positional with
    | [] => nothingBut (.template "Missing parameter for attribute name")
    | path :: rest =>
      generate (fun x => do
        let a ← follow ctx none (pathKeys path) x
        return if (← chosenTest rest a) == keep then some x else none) xs
  | _ => fail (.template ("No filter named " ++ Text.quoted name ++ "."))

/-- A filter. The number bounds how deeply filters that apply others are nested. -/
def applyFilter (ctx : Context) : Nat → String → Value → Args → Run Value
  | 0, name, v, args => applyPlain ctx name v args
  | n + 1, "map", v, args => do
    if !(← liftResult v.truth) then return ← Store.streamOf "generator" [] none
    let xs ← Store.items v
    match args.positional, args.named.lookup "attribute" with
    | [], some path =>
      let standIn := match args.named.lookup "default" with
        | some .null => none
        | d => d
      generate (fun x => some <$> follow ctx standIn (pathKeys path) x) xs
    | [], none => Store.streamOf "generator" [] (some (.template "map requires a filter argument"))
    | name :: rest, _ =>
      match name.text? with
      | some f =>
        generate (fun x => some <$> applyFilter ctx n f x { args with positional := rest }) xs
      | none => do
        let shown ← liftResult name.shown
        Store.streamOf "generator" [] (some (.template ("No filter named " ++ shown ++ ".")))
  | _, name, v, args => applyPlain ctx name v args

end SqlMapper.Template
