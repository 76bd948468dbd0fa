import ClusterDiscovery.Expression.BraceTemplate
import ClusterDiscovery.Expression.Iterate
import ClusterDiscovery.Expression.Signature
import ClusterDiscovery.Text.Case

/-! # Methods of texts

What the member functions of a text compute. A method of markup gives markup and escapes the texts
that it inserts. -/

namespace ClusterDiscovery.Expression

open ClusterDiscovery.Text

/-- A text that a method belongs to. -/
structure TextReceiver where
  chars : List Char
  isMarkup : Bool

namespace TextReceiver

def give (r : TextReceiver) (s : List Char) : Value :=
  if r.isMarkup then .markup (String.ofList s) else .text (String.ofList s)

def giveList (r : TextReceiver) (pieces : List (List Char)) : Run Value :=
  Run.allocList (pieces.map r.give)

/-- A text that is inserted into the receiver. -/
def inserted (r : TextReceiver) (v : Value) : Except Fault (List Char) := do
  let s ← textArgument v
  match r.isMarkup, v with
  | true, .markup _ => return s
  | true, _ => return s.flatMap escapeChar
  | false, _ => return s

end TextReceiver

/-- The part of a text between two bounds, and where it starts; nothing when the bounds are
crossed. -/
def window (s : List Char) (start stop : Option Int) : Option (Nat × List Char) :=
  let size : Int := s.length
  let fromEnd (i : Int) : Int := if i < 0 then max (i + size) 0 else i
  let first := fromEnd (start.getD 0)
  let last := min (fromEnd (stop.getD size)) size
  if first ≤ last then some (first.toNat, (s.drop first.toNat).take (last - first).toNat)
  else none

def searchArguments (r : TextReceiver) (args : Arguments) :
    Except Fault (List Char × Option (Nat × List Char)) := do
  let [some part, start, stop] ← args.byPosition 1 3 | throw .wrongType
  return (← textArgument part, window r.chars (← boundArgument start) (← boundArgument stop))

def foundAt (search : List Char → List Char → Option Nat) (r : TextReceiver)
    (args : Arguments) : Except Fault (Option Nat) := do
  let (part, within) ← searchArguments r args
  return within.bind fun (offset, s) => (search part s).map (· + offset)

/-- Whether the window starts or ends with the text, or with one of a tuple of texts. -/
def matchesEnd (agrees : List Char → List Char → Bool) (r : TextReceiver) (args : Arguments) :
    Except Fault Value := do
  let [some part, start, stop] ← args.byPosition 1 3 | throw .wrongType
  let within := window r.chars (← boundArgument start) (← boundArgument stop)
  let test (part : List Char) : Bool := within.any fun (_, s) => agrees part s
  match part.tuple? with
  | some parts => return .bool (← parts.anyM fun p => return test (← textArgument p))
  | none => return .bool (test (← textArgument part))

/-- The fill character of a padding method: a text of one character. -/
def fillArgument (r : TextReceiver) : Option Value → Except Fault Char
  | none => pure ' '
  | some v => do
    let [c] ← r.inserted v | throw .wrongType
    return c

def padded (pad : Nat → Char → List Char → List Char) (r : TextReceiver) (args : Arguments) :
    Except Fault Value := do
  let [some width, fill] ← args.byPosition 1 2 | throw .wrongType
  return r.give (pad (← sizeArgument width) (← fillArgument r fill) r.chars)

def trimmed (cut : (Char → Bool) → List Char → List Char) (r : TextReceiver)
    (args : Arguments) : Except Fault Value := do
  let [chars] ← args.byPosition 0 1 | throw .wrongType
  match chars with
  | none => return r.give (cut isBlank r.chars)
  | some .null => return r.give (cut isBlank r.chars)
  | some v =>
    let set ← textArgument v
    return r.give (cut (fun c => set.contains c) r.chars)

def splitSignature : Signature := ⟨[], ["sep", "maxsplit"]⟩

def splitWith (pieces : List Char → Option Nat → List Char → List (List Char))
    (blanks : Option Nat → List Char → List (List Char)) (r : TextReceiver) (args : Arguments) :
    Run Value := do
  let [separator, limit] ← lift (splitSignature.bind args) | throw .wrongType
  let limit := limitOf (← lift (optionalInt (-1) limit))
  match separator with
  | none => r.giveList (blanks limit r.chars)
  | some .null => r.giveList (blanks limit r.chars)
  | some v =>
    let s ← lift (textArgument v)
    if s.isEmpty then throw .badValue else r.giveList (pieces s limit r.chars)

def partitioned (cut : List Char → List Char → List Char × List Char × List Char)
    (r : TextReceiver) (args : Arguments) : Except Fault Value := do
  let [some separator] ← args.byPosition 1 1 | throw .wrongType
  let s ← textArgument separator
  if s.isEmpty then throw .badValue
  let (before, separator, after) := cut s r.chars
  return .tuple [r.give before, r.give separator, r.give after]

def everyChar (test : Char → Bool) (s : List Char) : Bool := !s.isEmpty && s.all test

def textProperty? (name : String) (s : List Char) : Option Bool :=
  match name with
  | "isalnum" => some (everyChar isAlphanumeric s)
  | "isalpha" => some (everyChar isLetter s)
  | "isascii" => some (s.all fun c => c.toNat < 0x80)
  | "isdecimal" => some (everyChar isDecimalDigit s)
  | "isdigit" => some (everyChar isDigit s)
  | "isnumeric" => some (everyChar isNumeral s)
  | "isidentifier" => some (isIdentifier s)
  | "islower" => some (isLowerText s)
  | "isupper" => some (isUpperText s)
  | "istitle" => some (isTitleText s)
  | "isspace" => some (everyChar isBlank s)
  | "isprintable" => some (s.all isPrintable)
  | _ => none

def textCase? (name : String) (s : List Char) : Option (List Char) :=
  match name with
  | "upper" => some (upper s)
  | "lower" => some (lower s)
  | "capitalize" => some (capitalize s)
  | "title" => some (titleWords s)
  | "swapcase" => some (swapCase s)
  | "casefold" => some (foldCase s)
  | _ => none

def charBytes (s : List Char) : List UInt8 := s.map fun c => c.toNat.toUInt8

/-- One character in an encoding of one byte each, whose codes lie below `limit`. -/
def narrowChar (limit : Nat) (errors : String) (c : Char) : Except Fault (List UInt8) :=
  if c.toNat < limit then pure (charBytes [c])
  else match errors with
    | "ignore" => pure []
    | "replace" => pure (charBytes ['?'])
    | "xmlcharrefreplace" => pure (charBytes ("&#" ++ toString c.toNat ++ ";").toList)
    | "backslashreplace" => pure (charBytes (PercentTemplate.asciiOnly [c]))
    | "strict" => throw (.badEncoding true)
    | _ => throw .unknownEncoding

/-- A number in a fixed count of bytes, the lowest first. -/
def lowFirst : Nat → Nat → List UInt8
  | 0, _ => []
  | count + 1, n => n.toUInt8 :: lowFirst count (n / 256)

/-- A character as units of two bytes; one beyond the basic plane takes two units. -/
def pairedUnits (c : Char) : List Nat :=
  if c.toNat < 0x10000 then [c.toNat]
  else [0xD800 + (c.toNat - 0x10000) / 0x400, 0xDC00 + (c.toNat - 0x10000) % 0x400]

/-- The encodings by units of several bytes: the bytes of a unit, whether the highest comes first,
and whether a mark of the order comes before the text. -/
def unitEncodings : List (String × Nat × Bool × Bool) :=
  [("utf-16", 2, false, true), ("utf16", 2, false, true), ("utf-16-le", 2, false, false),
    ("utf-16le", 2, false, false), ("utf-16-be", 2, true, false), ("utf-16be", 2, true, false),
    ("utf-32", 4, false, true), ("utf32", 4, false, true), ("utf-32-le", 4, false, false),
    ("utf-32le", 4, false, false), ("utf-32-be", 4, true, false), ("utf-32be", 4, true, false)]

def unitBytes (width : Nat) (highFirst marked : Bool) (s : List Char) : List UInt8 :=
  let units := s.flatMap fun c => if width == 2 then pairedUnits c else [c.toNat]
  let bytes (n : Nat) : List UInt8 :=
    if highFirst then (lowFirst width n).reverse else lowFirst width n
  (if marked then bytes 0xFEFF else []) ++ units.flatMap bytes

def encodeText (s : List Char) (encoding errors : String) : Except Fault (List UInt8) :=
  let name := String.ofList (encoding.toList.map fun c =>
    if c == '_' || c == ' ' then '-' else c.toLower)
  let narrow (limit : Nat) : Except Fault (List UInt8) := do
    return (← s.mapM (narrowChar limit errors)).flatten
  if ["utf-8", "utf8", "u8", "utf"].contains name then
    pure (String.ofList s).toUTF8.toList
  else if ["ascii", "us-ascii", "646"].contains name then narrow 0x80
  else if ["latin-1", "latin1", "iso-8859-1", "iso8859-1", "8859", "cp819", "l1"].contains name
  then narrow 0x100
  else match unitEncodings.find? fun e => e.1 == name with
    | some (_, width, highFirst, marked) => pure (unitBytes width highFirst marked s)
    | none => throw .unknownEncoding

/-- What one character becomes by a translation table. -/
def translated (table : Value) (c : Char) : Run (List Char) := do
  let entry : Run (Option Value) := tryCatch (some <$> subscript table (.int c.toNat)) fun
    | .missingKey | .outOfRange => pure none
    | f => throw f
  match ← entry with
  | none => return [c]
  | some .null => return []
  | some v =>
    match v.int?, v.text? with
    | some i, _ => if 0 ≤ i && i ≤ 0x10FFFF then return [Char.ofNat i.toNat] else throw .badValue
    | none, some s => return s.toList
    | none, none => throw .wrongType

/-- The translation table that maps the characters of one text to those of another. -/
def translationTable (args : Arguments) : Run Value := do
  let [some source, target, dropped] ← lift (args.byPosition 1 3) | throw .wrongType
  let store ← get
  let code (c : Char) : Value := .int c.toNat
  match target with
  | none =>
    match store.map? source with
    | none => throw .wrongType
    | some entries =>
      let entries ← entries.mapM fun (k, v) =>
        match k.int?, k.text? with
        | some _, _ => pure (k, v)
        | none, some s =>
          match s.toList with
          | [c] => pure (code c, v)
          | _ => throw .badValue
        | none, none => throw .wrongType
      Run.alloc (.map entries)
  | some target =>
    let xs ← lift (textArgument source)
    let ys ← lift (textArgument target)
    if xs.length != ys.length then throw .badValue
    let zs ← match dropped with
      | none => pure []
      | some v => lift (textArgument v)
    let pairs := (xs.zip ys).map (fun (x, y) => (code x, code y)) ++
      zs.map fun z => (code z, .null)
    let entries ← lift (pairs.foldlM (fun acc (k, v) => putEntry store acc k v) [])
    Run.alloc (.map entries)

/-- The texts of a sequence as characters; markup receivers escape other texts. -/
def joinedItems (r : TextReceiver) (items : List Value) : Run (List (List Char)) := do
  let store ← get
  lift (items.mapM fun v =>
    if r.isMarkup then return (← escapedText store v).toList else textArgument v)

/-- The reverse of escaping, for the references that escaping writes and a few more. -/
def unescapeMarkup (s : String) : String :=
  let pairs := [("&lt;", "<"), ("&gt;", ">"), ("&#39;", "'"), ("&#34;", "\""),
    ("&quot;", "\""), ("&apos;", "'"), ("&amp;", "&")]
  pairs.foldl (fun s (a, b) => String.ofList (replace a.toList b.toList none s.toList)) s

def callTextMethod (e : Engine) (r : TextReceiver) (name : String) (args : Arguments) :
    Run Value := do
  match textProperty? name r.chars, textCase? name r.chars with
  | some b, _ =>
    let _ ← lift (args.byPosition 0 0)
    return .bool b
  | none, some s =>
    let _ ← lift (args.byPosition 0 0)
    return r.give s
  | none, none =>
    match name with
    | "find" => return .int (((← lift (foundAt find? r args)).map Int.ofNat).getD (-1))
    | "rfind" => return .int (((← lift (foundAt findLast? r args)).map Int.ofNat).getD (-1))
    | "index" =>
      match ← lift (foundAt find? r args) with
      | some i => return .int i
      | none => throw .badValue
    | "rindex" =>
      match ← lift (foundAt findLast? r args) with
      | some i => return .int i
      | none => throw .badValue
    | "count" =>
      let (part, within) ← lift (searchArguments r args)
      return .int ((within.map fun (_, s) => countOf part s).getD 0)
    | "startswith" => lift (matchesEnd List.isPrefixOf r args)
    | "endswith" => lift (matchesEnd List.isSuffixOf r args)
    | "center" => lift (padded center r args)
    | "ljust" => lift (padded padRight r args)
    | "rjust" => lift (padded padLeft r args)
    | "zfill" =>
      let [some width] ← lift (args.byPosition 1 1) | throw .wrongType
      return r.give (zeroFill (← lift (sizeArgument width)) r.chars)
    | "strip" => lift (trimmed trimWhere r args)
    | "lstrip" => lift (trimmed (fun drop s => s.dropWhile drop) r args)
    | "rstrip" => lift (trimmed trimRightWhere r args)
    | "split" => splitWith splitOn splitBlanks r args
    | "rsplit" => splitWith splitOnRight splitBlanksRight r args
    | "splitlines" =>
      let [keepEnds] ← lift ((⟨[], ["keepends"]⟩ : Signature).bind args) | throw .wrongType
      r.giveList (lines ((← lift (optionalInt 0 keepEnds)) != 0) r.chars)
    | "partition" => lift (partitioned partition r args)
    | "rpartition" => lift (partitioned partitionRight r args)
    | "replace" =>
      let [some old, some new, limit] ← lift (args.byPosition 2 3) | throw .wrongType
      let old ← lift (textArgument old)
      let new ← lift (r.inserted new)
      return r.give (replace old new (limitOf (← lift (optionalInt (-1) limit))) r.chars)
    | "removeprefix" =>
      let [some part] ← lift (args.byPosition 1 1) | throw .wrongType
      let s ← lift (textArgument part)
      return r.give (if s.isPrefixOf r.chars then r.chars.drop s.length else r.chars)
    | "removesuffix" =>
      let [some part] ← lift (args.byPosition 1 1) | throw .wrongType
      let s ← lift (textArgument part)
      return r.give
        (if s.isSuffixOf r.chars then r.chars.take (r.chars.length - s.length) else r.chars)
    | "expandtabs" =>
      let [size] ← lift ((⟨[], ["tabsize"]⟩ : Signature).bind args) | throw .wrongType
      return r.give (expandTabs (← lift (optionalInt 8 size)).toNat r.chars)
    | "join" =>
      let [some items] ← lift (args.byPosition 1 1) | throw .wrongType
      return r.give (List.intercalate r.chars (← joinedItems r (← itemsOf e items)))
    | "encode" =>
      let [encoding, errors] ← lift ((⟨[], ["encoding", "errors"]⟩ : Signature).bind args)
        | throw .wrongType
      let word (default : String) : Option Value → Except Fault String
        | none => pure default
        | some v => return String.ofList (← textArgument v)
      return .bytes (← lift
        (do encodeText r.chars (← word "utf-8" encoding) (← word "strict" errors)))
    | "translate" =>
      let [some table] ← lift (args.byPosition 1 1) | throw .wrongType
      return r.give (← r.chars.mapM (translated table)).flatten
    | "maketrans" => translationTable args
    | "format" =>
      return r.give (← fillBraces r.isMarkup (String.ofList r.chars)
        ⟨args.positional, .inl args.named⟩).toList
    | "format_map" =>
      let [some mapping] ← lift (args.byPosition 1 1) | throw .wrongType
      return r.give (← fillBraces r.isMarkup (String.ofList r.chars) ⟨[], .inr mapping⟩).toList
    | "escape" =>
      let [some v] ← lift (args.byPosition 1 1) | throw .wrongType
      return .markup (← lift (escapedText (← get) v))
    | "unescape" =>
      let _ ← lift (args.byPosition 0 0)
      return .text (unescapeMarkup (String.ofList r.chars))
    | _ => throw .wrongType

end ClusterDiscovery.Expression
