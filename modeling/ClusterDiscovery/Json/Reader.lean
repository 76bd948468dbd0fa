import ClusterDiscovery.Datum
import ClusterDiscovery.Number.Numeral

/-! # Reading JSON

JSON texts as data. Objects keep their fields in the order of writing; a repeated field keeps its
first place and its last value. The names of infinite and undetermined numbers are understood. -/

namespace ClusterDiscovery.Json

open ClusterDiscovery.Number

def isSpace (c : Char) : Bool := c == ' ' || c == '\t' || c == '\n' || c == '\r'

def skipSpace (s : List Char) : List Char := s.dropWhile isSpace

def takeUnit? (s : List Char) : Option (Nat × List Char) := do
  let digits := s.take 4
  if digits.length != 4 then none
  let n ← digits.foldlM (fun n c => do
    let d ← digitValue? c
    if d < 16 then some (n * 16 + d) else none) 0
  return (n, s.drop 4)

/-- The character of one or two code units. A lone surrogate becomes a replacement character. -/
def takeEscaped? (s : List Char) : Option (Char × List Char) := do
  let (unit, rest) ← takeUnit? s
  if 0xD800 ≤ unit && unit < 0xDC00 then
    match rest with
    | '\\' :: 'u' :: more =>
      let (low, rest') ← takeUnit? more
      if 0xDC00 ≤ low && low < 0xE000 then
        return (Char.ofNat (0x10000 + (unit - 0xD800) * 0x400 + (low - 0xDC00)), rest')
      else return ('\uFFFD', rest)
    | _ => return ('\uFFFD', rest)
  else if 0xDC00 ≤ unit && unit < 0xE000 then return ('\uFFFD', rest)
  else return (Char.ofNat unit, rest)

/-- The characters of a string up to its closing quote. A fuel of the length suffices. -/
def takeString? : Nat → List Char → Option (List Char × List Char)
  | 0, _ => none
  | fuel + 1, s => do
    match s with
    | [] => none
    | '"' :: rest => return ([], rest)
    | '\\' :: c :: rest =>
      let (d, rest) ← match c with
        | '"' | '\\' | '/' => some (c, rest)
        | 'b' => some ('\x08', rest)
        | 'f' => some ('\x0c', rest)
        | 'n' => some ('\n', rest)
        | 'r' => some ('\r', rest)
        | 't' => some ('\t', rest)
        | 'u' => takeEscaped? rest
        | _ => none
      let (t, rest) ← takeString? fuel rest
      return (d :: t, rest)
    | c :: rest =>
      if c.toNat < 0x20 then none
      else
        let (t, rest) ← takeString? fuel rest
        return (c :: t, rest)

/-- A number with its kind: whole numbers are integers, all others doubles. -/
def takeNumber? (s : List Char) : Option (Datum × List Char) := do
  let (negative, rest) := match s with
    | '-' :: rest => (true, rest)
    | s => (false, s)
  let whole := rest.takeWhile Char.isDigit
  let rest := rest.dropWhile Char.isDigit
  if whole.isEmpty || (whole.length > 1 && whole.head? == some '0') then none
  let (fraction, rest) := match rest with
    | '.' :: c :: more =>
      if c.isDigit then ((c :: more).takeWhile Char.isDigit, (c :: more).dropWhile Char.isDigit)
      else ([], rest)
    | rest => ([], rest)
  let (exponent, rest) : Option (List Char) × List Char := match rest with
    | mark :: more =>
      if mark == 'e' || mark == 'E' then
        let (sign, digits) := match more with
          | '+' :: r => (['+'], r)
          | '-' :: r => (['-'], r)
          | r => ([], r)
        let run := digits.takeWhile Char.isDigit
        if run.isEmpty then (none, rest)
        else (some (mark :: sign ++ run), digits.dropWhile Char.isDigit)
      else (none, rest)
    | [] => (none, [])
  if fraction.isEmpty && exponent.isNone then
    let n : Int := digitsNat whole
    return (.int (if negative then -n else n), rest)
  else
    let e ← readExponent? (exponent.getD [])
    return (.float (ofDecimal negative (digitsNat (whole ++ fraction)) (e - fraction.length)), rest)

def putField (fields : List (Datum × Datum)) (name : String) (v : Datum) :
    List (Datum × Datum) :=
  let isField (entry : Datum × Datum) : Bool := match entry.1 with
    | .text s => s == name
    | _ => false
  if fields.any isField then
    fields.map fun entry => if isField entry then (entry.1, v) else entry
  else fields ++ [(.text name, v)]

def words : List (String × Datum) :=
  [("null", .null), ("true", .bool true), ("false", .bool false), ("NaN", .float notANumber),
    ("Infinity", .float infinity), ("-Infinity", .float (withSign true infinity))]

mutual

def takeValue? : Nat → List Char → Option (Datum × List Char)
  | 0, _ => none
  | fuel + 1, s => do
    match skipSpace s with
    | '"' :: rest =>
      let (t, rest) ← takeString? (rest.length + 1) rest
      return (.text (String.ofList t), rest)
    | '[' :: rest =>
      match skipSpace rest with
      | ']' :: rest => return (.list [], rest)
      | rest =>
        let (items, rest) ← takeItems? fuel rest
        return (.list items, rest)
    | '\x7b' :: rest =>
      match skipSpace rest with
      | '\x7d' :: rest => return (.map [], rest)
      | rest =>
        let (fields, rest) ← takeFields? fuel [] rest
        return (.map fields, rest)
    | s =>
      match words.find? fun (word, _) => word.toList.isPrefixOf s with
      | some (word, v) => return (v, s.drop word.length)
      | none => takeNumber? s

def takeItems? : Nat → List Char → Option (List Datum × List Char)
  | 0, _ => none
  | fuel + 1, s => do
    let (v, rest) ← takeValue? fuel s
    match skipSpace rest with
    | ',' :: rest =>
      let (items, rest) ← takeItems? fuel rest
      return (v :: items, rest)
    | ']' :: rest => return ([v], rest)
    | _ => none

def takeFields? : Nat → List (Datum × Datum) → List Char →
    Option (List (Datum × Datum) × List Char)
  | 0, _, _ => none
  | fuel + 1, fields, s => do
    match skipSpace s with
    | '"' :: rest =>
      let (name, rest) ← takeString? (rest.length + 1) rest
      match skipSpace rest with
      | ':' :: rest =>
        let (v, rest) ← takeValue? fuel rest
        let fields := putField fields (String.ofList name) v
        match skipSpace rest with
        | ',' :: rest => takeFields? fuel fields rest
        | '\x7d' :: rest => return (fields, rest)
        | _ => none
      | _ => none
    | _ => none

end

/-- The data of a JSON text; nothing when the text is no JSON. -/
def read? (text : String) : Option Datum := do
  let s := text.toList
  let (v, rest) ← takeValue? (2 * s.length + 2) s
  if (skipSpace rest).isEmpty then some v else none

end ClusterDiscovery.Json
