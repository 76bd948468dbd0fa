import ClusterDiscovery.Datum.Access
import ClusterDiscovery.Yaml.Scalar

/-! # Flow style

Values written within one another: lists in brackets, mappings in braces, and scalars with or
without quotes. JSON is a part of this style. -/

namespace ClusterDiscovery.Yaml

def isSpace (c : Char) : Bool := c == ' ' || c == '\t' || c == '\n'

def skipSpace (s : List Char) : List Char := s.dropWhile isSpace

/-- A text in single quotes, after the first one; two quotes stand for one. -/
def takeSingle? : List Char → Option (List Char × List Char)
  | '\'' :: '\'' :: rest => (takeSingle? rest).map fun (s, after) => ('\'' :: s, after)
  | '\'' :: rest => some ([], rest)
  | c :: rest => (takeSingle? rest).map fun (s, after) => (c :: s, after)
  | [] => none

def escapedChar? : Char → Option Char
  | '0' => some '\x00'
  | 'a' => some '\x07'
  | 'b' => some '\x08'
  | 't' => some '\t'
  | 'n' => some '\n'
  | 'v' => some '\x0b'
  | 'f' => some '\x0c'
  | 'r' => some '\r'
  | 'e' => some '\x1b'
  | ' ' => some ' '
  | '"' => some '"'
  | '/' => some '/'
  | '\\' => some '\\'
  | _ => none

def escapeWidth? : Char → Option Nat
  | 'x' => some 2
  | 'u' => some 4
  | 'U' => some 8
  | _ => none

def takeDouble? : Nat → List Char → Option (List Char × List Char)
  | 0, _ => none
  | _, '"' :: rest => some ([], rest)
  | fuel + 1, '\\' :: c :: rest =>
    match escapeWidth? c with
    | some width =>
      let digits := rest.take width
      if digits.length == width && digits.all (isDigitOf 16) then
        (takeDouble? fuel (rest.drop width)).map fun (s, after) =>
          (Char.ofNat (valueIn 16 digits) :: s, after)
      else none
    | none => do
      let d ← escapedChar? c
      let (s, after) ← takeDouble? fuel rest
      return (d :: s, after)
  | fuel + 1, c :: rest => (takeDouble? fuel rest).map fun (s, after) => (c :: s, after)
  | _, [] => none

def trimSpace (s : List Char) : List Char := ((skipSpace s).reverse.dropWhile isSpace).reverse

/-- The marks that end a scalar within brackets. -/
def isFlowMark (c : Char) : Bool :=
  c == ',' || c == '[' || c == ']' || c == '{' || c == '}'

/-- A plain scalar within brackets: up to a comma, a bracket, or a colon before a blank. -/
def takePlain : List Char → List Char × List Char
  | [] => ([], [])
  | c :: rest =>
    let endsHere := isFlowMark c
      || (c == ':' && (rest.isEmpty || rest.head?.any fun d => isSpace d || isFlowMark d))
      || (isSpace c && (skipSpace rest).head? == some '#')
    if endsHere then ([], c :: rest)
    else
      let (s, after) := takePlain rest
      (c :: s, after)

def takeScalar? (fuel : Nat) (s : List Char) : Option (Datum × Bool × List Char) :=
  match s with
  | '\'' :: rest => (takeSingle? rest).map fun (t, after) => (.text (String.ofList t), true, after)
  | '"' :: rest =>
    (takeDouble? fuel rest).map fun (t, after) => (.text (String.ofList t), true, after)
  | s =>
    let (t, after) := takePlain s
    some (plainScalar (trimSpace t), false, after)

mutual

def takeFlow? : Nat → List Char → Option (Datum × List Char)
  | 0, _ => none
  | fuel + 1, s =>
    match skipSpace s with
    | '[' :: rest => do
      let (items, after) ← takeItems? fuel rest
      return (.list items, after)
    | '{' :: rest => do
      let (entries, after) ← takeEntries? fuel [] rest
      return (.map entries, after)
    | s => (takeScalar? fuel s).map fun (d, _, after) => (d, after)

def takeItems? : Nat → List Char → Option (List Datum × List Char)
  | 0, _ => none
  | fuel + 1, s =>
    match skipSpace s with
    | ']' :: rest => some ([], rest)
    | s => do
      let (d, after) ← takeFlow? fuel s
      match skipSpace after with
      | ',' :: rest =>
        let (items, after) ← takeItems? fuel rest
        return (d :: items, after)
      | ']' :: rest => return ([d], rest)
      | _ => none

def takeEntries? : Nat → List (Datum × Datum) → List Char →
    Option (List (Datum × Datum) × List Char)
  | 0, _, _ => none
  | fuel + 1, entries, s =>
    match skipSpace s with
    | '}' :: rest => some (entries, rest)
    | s => do
      let (key, _, after) ← takeScalar? fuel s
      let (value, after) ← match skipSpace after with
        | ':' :: rest =>
          match skipSpace rest with
          | ',' :: _ => pure (.null, rest)
          | '}' :: _ => pure (.null, rest)
          | _ => takeFlow? fuel rest
        | rest => pure (.null, rest)
      let entries := Datum.put entries key value
      match skipSpace after with
      | ',' :: rest => takeEntries? fuel entries rest
      | '}' :: rest => return (entries, rest)
      | _ => none

end

end ClusterDiscovery.Yaml
