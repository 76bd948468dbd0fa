import ClusterDiscovery.Expression.Members
import ClusterDiscovery.Expression.FormatSpec

/-! # Percent templates

Texts with `%` directives. The arguments are a tuple, one value, or a mapping whose keys the
directives name. When the template is markup, every inserted text is escaped. -/

namespace ClusterDiscovery.Expression

open ClusterDiscovery.Number ClusterDiscovery.Text

structure Directive where
  leftAligned : Bool
  plus : Bool
  blank : Bool
  alternate : Bool
  zeroPad : Bool
  width : Nat
  precision : Option Nat
  kind : Char

namespace PercentTemplate

/-- The arguments that are still to be used. A mapping tolerates leftovers. -/
structure Supply where
  whole : Value
  pending : List Value
  isMapping : Bool

def isSubscriptable (store : Store) (v : Value) : Bool :=
  match v with
  | .bytes _ | .range .. | .undefined _ => true
  | .ref id => match store[id]? with
    | some (.list _) | some (.map _) => true
    | _ => false
  | _ => false

def Supply.of (store : Store) (args : Value) : Supply :=
  match args.tuple? with
  | some items => ⟨args, items, false⟩
  | none => ⟨args, [args], isSubscriptable store args⟩

def Supply.next (s : Supply) : Except Fault (Value × Supply) :=
  match s.pending with
  | v :: rest => pure (v, { s with pending := rest })
  | [] => throw .wrongType

def takeFlags (d : Directive) : List Char → Directive × List Char
  | '-' :: rest => takeFlags { d with leftAligned := true } rest
  | '+' :: rest => takeFlags { d with plus := true } rest
  | ' ' :: rest => takeFlags { d with blank := true } rest
  | '#' :: rest => takeFlags { d with alternate := true } rest
  | '0' :: rest => takeFlags { d with zeroPad := true } rest
  | s => (d, s)

/-- The key in parentheses that follows a percent sign. Inner parentheses are matched. -/
def takeKey : Nat → List Char → Option (List Char × List Char)
  | _, [] => none
  | depth, ')' :: rest =>
    match depth with
    | 0 => some ([], rest)
    | depth + 1 => (takeKey depth rest).map fun (k, r) => (')' :: k, r)
  | depth, '(' :: rest => (takeKey (depth + 1) rest).map fun (k, r) => ('(' :: k, r)
  | depth, c :: rest => (takeKey depth rest).map fun (k, r) => (c :: k, r)

def takeDigits (s : List Char) : Nat × List Char :=
  ((s.takeWhile Char.isDigit).foldl (fun n c => n * 10 + (c.toNat - '0'.toNat)) 0,
    s.dropWhile Char.isDigit)

def starCount (v : Value) : Except Fault Int :=
  match v.int? with
  | some i => pure i
  | none => throw .wrongType

def numberField (d : Directive) (negative : Bool) (mark digits : List Char) : List Char :=
  let sign := if negative then ['-'] else if d.plus then ['+'] else if d.blank then [' '] else []
  let body := sign ++ mark ++ digits
  let n := d.width - body.length
  if d.leftAligned then body ++ List.replicate n ' '
  else if d.zeroPad then sign ++ mark ++ zeros n ++ digits
  else List.replicate n ' ' ++ body

def textField (d : Directive) (s : List Char) : List Char :=
  let n := d.width - s.length
  if d.leftAligned then s ++ List.replicate n ' ' else List.replicate n ' ' ++ s

/-- The text with everything beyond ASCII written as escapes. -/
def asciiOnly (s : List Char) : List Char :=
  s.flatMap fun c =>
    if c.toNat < 0x80 then [c]
    else if c.toNat < 0x100 then '\\' :: 'x' :: hexDigits 2 c.toNat
    else if c.toNat < 0x10000 then '\\' :: 'u' :: hexDigits 4 c.toNat
    else '\\' :: 'U' :: hexDigits 8 c.toNat

def wholeNumber (v : Value) : Except Fault Int :=
  match v with
  | .undefined why => throw why.fault
  | .float x =>
    if x.isNaN then throw .badValue else if !isFinite x then throw .tooLarge
    else pure (truncate x)
  | v => match v.int? with
    | some i => pure i
    | none => throw .wrongType

def realNumber (v : Value) : Except Fault Float :=
  match v with
  | .undefined why => throw why.fault
  | v => match v.number? with
    | some n => floatOf n
    | none => throw .wrongType

def padPrecision (d : Directive) (digits : List Char) : List Char :=
  zeros (d.precision.getD 0 - digits.length) ++ digits

/-- The text of one argument as the directive asks for it. -/
def render (store : Store) (escaping : Bool) (d : Directive) (v : Value) :
    Except Fault (List Char) := do
  let shown (s : String) : List Char := if escaping then (escapeMarkup s).toList else s.toList
  let cut (s : List Char) : List Char := match d.precision with
    | some n => s.take n
    | none => s
  match d.kind with
  | 's' =>
    let s ← if escaping then escapedText store v else plainText store v
    return textField d (cut s.toList)
  | 'r' => return textField d (cut (shown (← quotedText store v)))
  | 'a' => return textField d (cut (asciiOnly (shown (← quotedText store v))))
  | 'd' | 'i' | 'u' =>
    let i ← wholeNumber v
    if !writableInt i then throw .badValue
    return numberField d (i < 0) [] (padPrecision d (natDigits i.natAbs))
  | 'x' | 'X' | 'o' =>
    if escaping then throw .wrongType
    match v.int? with
    | none => throw .wrongType
    | some i =>
      let base := if d.kind == 'o' then 8 else 16
      let mark := if d.alternate then ['0', d.kind.toLower] else []
      let field := numberField d (i < 0) mark (padPrecision d (digitsInBase base i.natAbs))
      return if d.kind == 'X' then field.map Char.toUpper else field
  | 'e' | 'E' | 'f' | 'F' | 'g' | 'G' =>
    let x ← realNumber v
    let spec : FormatSpec :=
      ⟨none, none, none, false, d.alternate, false, 0, none, d.precision, some d.kind⟩
    let body ← spec.floatBody (withSign false x.abs)
    return numberField d (isNegative x && !x.isNaN) [] body
  | 'c' =>
    match v.int?, v.text? with
    | some i, _ =>
      if i < 0 || i > 0x10FFFF then throw .tooLarge
      return textField d [Char.ofNat i.toNat]
    | none, some s =>
      if s.length == 1 then return textField d s.toList else throw .wrongType
    | none, none => throw .wrongType
  | _ => throw .badValue

/-- A width or precision: digits, or a star that takes it from the arguments. -/
def takeAmount (supply : Supply) (s : List Char) :
    Except Fault (Int × Supply × List Char) :=
  match s with
  | '*' :: rest => do
    let (v, supply) ← supply.next
    return (← starCount v, supply, rest)
  | s =>
    let (n, rest) := takeDigits s
    pure (n, supply, rest)

def takePrecision (supply : Supply) (s : List Char) :
    Except Fault (Option Nat × Supply × List Char) :=
  match s with
  | '.' :: rest => do
    let (n, supply, rest) ← takeAmount supply rest
    return (some n.toNat, supply, rest)
  | s => pure (none, supply, s)

def skipLengthMark : List Char → List Char
  | c :: rest => if c == 'h' || c == 'l' || c == 'L' then rest else c :: rest
  | [] => []

/-- Fills in the template. A fuel of its length suffices, since every step takes a character. -/
def fillFrom (escaping : Bool) : Nat → Supply → List Char → Run (List Char)
  | 0, _, _ => throw .tooDeep
  | fuel + 1, supply, s =>
    match s with
    | [] =>
      if !supply.pending.isEmpty && !supply.isMapping then throw .wrongType else pure []
    | '%' :: '%' :: rest => return '%' :: (← fillFrom escaping fuel supply rest)
    | '%' :: rest => do
      let (supply, rest) ← match rest with
        | '(' :: rest => do
          if !supply.isMapping then throw .wrongType
          match takeKey 0 rest with
          | none => throw .badValue
          | some (key, rest) => do
            let v ← subscript supply.whole (.text (String.ofList key))
            pure (({ supply with pending := [v] } : Supply), rest)
        | rest => pure (supply, rest)
      let (d, rest) := takeFlags ⟨false, false, false, false, false, 0, none, 's'⟩ rest
      let (width, supply, rest) ← lift (takeAmount supply rest)
      let d := { d with width := width.natAbs, leftAligned := d.leftAligned || width < 0 }
      let (precision, supply, rest) ← lift (takePrecision supply rest)
      match skipLengthMark rest with
      | [] => throw .badValue
      | kind :: rest => do
        let (v, supply) ← lift supply.next
        let shown ← lift (render (← get) escaping { d with precision, kind } v)
        return shown ++ (← fillFrom escaping fuel supply rest)
    | c :: rest => return c :: (← fillFrom escaping fuel supply rest)

end PercentTemplate

def fillPercent (escaping : Bool) (template : String) (args : Value) : Run String := do
  let supply := PercentTemplate.Supply.of (← get) args
  let s := template.toList
  return String.ofList (← PercentTemplate.fillFrom escaping (s.length + 1) supply s)

/-- The remainder of numbers, or a percent template filled in. -/
def rem (a b : Value) : Run Value := do
  match a with
  | .text s => return .text (← fillPercent false s b)
  | .markup s => return .markup (← fillPercent true s b)
  | a => numeric .rem a b

end ClusterDiscovery.Expression
