import ClusterDiscovery.Expression.Members
import ClusterDiscovery.Expression.PercentTemplate

/-! # Brace templates

Texts with fields in braces: an argument by number or name, members and elements of it, a
conversion and a format specification, which may hold fields itself. -/

namespace ClusterDiscovery.Expression

open ClusterDiscovery.Number ClusterDiscovery.Text

namespace BraceTemplate

structure Field where
  name : List Char
  conversion : Option Char
  spec : List Char

/-- The text up to the next brace, the field after it if there is one, and the rest. -/
structure Segment where
  literal : List Char
  field : Option Field
  rest : List Char

/-- The name of a field up to the character that ends it. Brackets hide such characters. -/
def takeName : Bool → List Char → Except Fault (List Char × Char × List Char)
  | _, [] => throw .badValue
  | true, c :: rest => do
    let (name, stop, rest) ← takeName (c != ']') rest
    return (c :: name, stop, rest)
  | false, c :: rest =>
    if c == '\x7b' then throw .badValue
    else if c == '\x7d' || c == ':' || c == '!' then pure ([], c, rest)
    else do
      let (name, stop, rest) ← takeName (c == '[') rest
      return (c :: name, stop, rest)

/-- The specification up to the brace that closes the field. -/
def takeSpec : Nat → List Char → Except Fault (List Char × List Char)
  | _, [] => throw .badValue
  | depth, c :: rest =>
    if c == '\x7d' && depth == 0 then pure ([], rest)
    else do
      let depth := if c == '\x7b' then depth + 1 else if c == '\x7d' then depth - 1 else depth
      let (spec, rest) ← takeSpec depth rest
      return (c :: spec, rest)

def takeField (s : List Char) : Except Fault (Field × List Char) := do
  let (name, stop, rest) ← takeName false s
  if stop == '\x7d' then return (⟨name, none, []⟩, rest)
  else if stop == ':' then
    let (spec, rest) ← takeSpec 0 rest
    return (⟨name, none, spec⟩, rest)
  else
    match rest with
    | [] => throw .badValue
    | [_] => throw .badValue
    | c :: '\x7d' :: rest => return (⟨name, some c, []⟩, rest)
    | c :: ':' :: rest =>
      let (spec, rest) ← takeSpec 0 rest
      return (⟨name, some c, spec⟩, rest)
    | _ => throw .badValue

/-- The next segment. A doubled brace stands for itself and ends a segment. -/
def nextSegment : List Char → Except Fault Segment
  | [] => pure ⟨[], none, []⟩
  | '\x7b' :: '\x7b' :: rest => pure ⟨['\x7b'], none, rest⟩
  | '\x7d' :: '\x7d' :: rest => pure ⟨['\x7d'], none, rest⟩
  | ['\x7b'] => throw .badValue
  | '\x7d' :: _ => throw .badValue
  | '\x7b' :: rest => do
    let (field, rest) ← takeField rest
    return ⟨[], some field, rest⟩
  | c :: rest => do
    let segment ← nextSegment rest
    return { segment with literal := c :: segment.literal }

/-- One step from an argument to what the field shows. -/
inductive Step where
  | member (name : String)
  | element (key : Value)

def indexOrName (s : List Char) : Value :=
  if !s.isEmpty && s.all isDecimalDigit then
    .int (s.foldl (fun n c => n * 10 + (decimalValue? c).getD 0) 0)
  else .text (String.ofList s)

def isStepStart (c : Char) : Bool := c == '.' || c == '['

def nextStep? : List Char → Except Fault (Option (Step × List Char))
  | [] => pure none
  | '.' :: rest =>
    let name := rest.takeWhile fun c => !isStepStart c
    if name.isEmpty then throw .badValue
    else pure (some (.member (String.ofList name), rest.dropWhile fun c => !isStepStart c))
  | '[' :: rest =>
    let key := rest.takeWhile (· != ']')
    match rest.dropWhile (· != ']') with
    | [] => throw .badValue
    | _ :: rest =>
      if key.isEmpty then throw .badValue else pure (some (.element (indexOrName key), rest))
  | _ => throw .badValue

def followPath : Nat → Value → List Char → Run Value
  | 0, _, _ => throw .tooDeep
  | fuel + 1, v, path => do
    match ← lift (nextStep? path) with
    | none => return v
    | some (.member name, rest) => followPath fuel (← getAttribute v name) rest
    | some (.element key, rest) => followPath fuel (← getItem v key) rest

/-- How fields without a number take arguments: the next number, or not at all once a number has
been written. -/
inductive Numbering where
  | next (n : Nat)
  | manual

/-- The arguments of a template. Named ones come from a mapping or from the call. -/
structure Inputs where
  positional : List Value
  named : List (String × Value) ⊕ Value

def Inputs.named? (inputs : Inputs) (name : String) : Run Value := do
  match inputs.named with
  | .inl entries =>
    match entries.find? fun entry => entry.1 == name with
    | some (_, v) => return v
    | none => throw .missingKey
  | .inr mapping => subscript mapping (.text name)

/-- The name of a field with its number filled in. -/
def numberField (numbering : Numbering) (name : List Char) :
    Except Fault (List Char × Numbering) :=
  if name.isEmpty then
    match numbering with
    | .next n => pure (natDigits n, .next (n + 1))
    | .manual => throw .badValue
  else if name.all isDigit then
    match numbering with
    | .next (_ + 1) => throw .badValue
    | _ => pure (name, .manual)
  else pure (name, numbering)

def fieldValue (inputs : Inputs) (name : List Char) : Run Value := do
  let first := name.takeWhile fun c => !isStepStart c
  let path := name.dropWhile fun c => !isStepStart c
  let base ← match indexOrName first with
    | .int i =>
      match inputs.positional[i.toNat]? with
      | some v => pure v
      | none => throw .outOfRange
    | _ => inputs.named? (String.ofList first)
  followPath (path.length + 1) base path

def converted (store : Store) (conversion : Option Char) (v : Value) : Except Fault Value :=
  match conversion with
  | none => pure v
  | some 's' => return .text (← plainText store v)
  | some 'r' => return .text (← quotedText store v)
  | some 'a' =>
    return .text (String.ofList (PercentTemplate.asciiOnly (← quotedText store v).toList))
  | some _ => throw .badValue

/-- A field's text; escaped when the template is markup. -/
def fieldText (store : Store) (escaping : Bool) (v : Value) (spec : List Char) :
    Except Fault String :=
  match escaping, v with
  | true, .markup s => if spec.isEmpty then pure s else throw .badValue
  | true, v => return escapeMarkup (← formatted store v spec)
  | false, v => formatted store v spec

/-- Fills a template in. `depth` bounds how far specifications may hold fields, and `fuel` of one
more than the length suffices for the segments. -/
def fill (escaping : Bool) (inputs : Inputs) :
    Nat → Nat → Numbering → List Char → Run (List Char × Numbering)
  | 0, _, _, _ => throw .badValue
  | _ + 1, 0, _, _ => throw .tooDeep
  | depth + 1, fuel + 1, numbering, s => do
    if s.isEmpty then return ([], numbering)
    let segment ← lift (nextSegment s)
    match segment.field with
    | none =>
      let (rest, numbering) ← fill escaping inputs (depth + 1) fuel numbering segment.rest
      return (segment.literal ++ rest, numbering)
    | some field =>
      let (name, numbering) ← lift (numberField numbering field.name)
      let v ← fieldValue inputs name
      let v ← lift (converted (← get) field.conversion v)
      let (spec, numbering) ← fill escaping inputs depth (field.spec.length + 1) numbering
        field.spec
      let shown ← lift (fieldText (← get) escaping v spec)
      let (rest, numbering) ← fill escaping inputs (depth + 1) fuel numbering segment.rest
      return (segment.literal ++ shown.toList ++ rest, numbering)
termination_by depth fuel => (depth, fuel)

end BraceTemplate

def fillBraces (escaping : Bool) (template : String) (inputs : BraceTemplate.Inputs) :
    Run String := do
  let s := template.toList
  let (filled, _) ← BraceTemplate.fill escaping inputs 3 (s.length + 1) (.next 0) s
  return String.ofList filled

end ClusterDiscovery.Expression
