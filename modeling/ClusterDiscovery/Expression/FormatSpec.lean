import ClusterDiscovery.Expression.Operators
import ClusterDiscovery.Number.Layout
import ClusterDiscovery.Text.Pieces

/-! # Format specifications

The short language that says how one value is laid out in a field: fill and alignment, sign,
width, grouping, precision and the kind of number. -/

namespace ClusterDiscovery.Expression

open ClusterDiscovery.Number ClusterDiscovery.Text

/-- A format specification: `[[fill]align][sign][z][#][0][width][grouping][.precision][kind]`. -/
structure FormatSpec where
  fill : Option Char
  align : Option Char
  sign : Option Char
  noNegativeZero : Bool
  alternate : Bool
  zeroPad : Bool
  width : Nat
  grouping : Option Char
  precision : Option Nat
  kind : Option Char

namespace FormatSpec

def isAlignment (c : Char) : Bool := c == '<' || c == '>' || c == '=' || c == '^'

def takeAlignment : List Char → Option Char × Option Char × List Char
  | fill :: align :: rest =>
    if isAlignment align then (some fill, some align, rest)
    else if isAlignment fill then (none, some fill, align :: rest)
    else (none, none, fill :: align :: rest)
  | [align] => if isAlignment align then (none, some align, []) else (none, none, [align])
  | [] => (none, none, [])

def takeIf (accept : Char → Bool) : List Char → Option Char × List Char
  | c :: rest => if accept c then (some c, rest) else (none, c :: rest)
  | [] => (none, [])

def takeNumber (s : List Char) : Option Nat × List Char :=
  let digits := s.takeWhile isDecimalDigit
  if digits.isEmpty then (none, s)
  else
    (some (digits.foldl (fun n c => n * 10 + (decimalValue? c).getD 0) 0),
      s.dropWhile isDecimalDigit)

/-- Reads a specification. More than one character after the known parts is refused. -/
def parse (s : List Char) : Except Fault FormatSpec := do
  let (fill, align, rest) := takeAlignment s
  let (sign, rest) := takeIf (fun c => c == '+' || c == '-' || c == ' ') rest
  let (z, rest) := takeIf (· == 'z') rest
  let (alternate, rest) := takeIf (· == '#') rest
  let (zero, rest) := if fill.isNone then takeIf (· == '0') rest else (none, rest)
  let (width, rest) := takeNumber rest
  let (comma, rest) := takeIf (· == ',') rest
  let (underscore, rest) := takeIf (· == '_') rest
  if comma.isSome && underscore.isSome then throw .badValue
  if underscore.isSome && rest.head? == some ',' then throw .badValue
  let (point, rest) := takeIf (· == '.') rest
  let (precision, rest) := if point.isSome then takeNumber rest else (none, rest)
  if point.isSome && precision.isNone then throw .badValue
  if rest.length > 1 then throw .badValue
  return ⟨fill, align, sign, z.isSome, alternate.isSome, zero.isSome, width.getD 0,
    comma.orElse fun _ => underscore, precision, rest.head?⟩

/-- The filling character. A zero before the width fills with zeros. -/
def filling (f : FormatSpec) : Char := f.fill.getD (if f.zeroPad then '0' else ' ')

def pad (f : FormatSpec) (default : Char) (s : List Char) : List Char :=
  let n := f.width - s.length
  let fill := f.filling
  match f.align.getD default with
  | '>' | '=' => List.replicate n fill ++ s
  | '^' => List.replicate (n / 2) fill ++ s ++ List.replicate (n - n / 2) fill
  | _ => s ++ List.replicate n fill

def formatText (f : FormatSpec) (s : List Char) : Except Fault (List Char) :=
  if f.sign.isSome || f.noNegativeZero || f.alternate || f.align == some '='
      || f.grouping.isSome || (f.kind.isSome && f.kind != some 's') then throw .badValue
  else
    let s := match f.precision with
      | some n => s.take n
      | none => s
    pure (f.pad '<' s)

def signChars (f : FormatSpec) (negative : Bool) : List Char :=
  if negative then ['-']
  else match f.sign with
    | some '+' => ['+']
    | some ' ' => [' ']
    | _ => []

/-- Digits before and after the point, with sign and mark, in their field. Zeros that fill the
field take part in the grouping. -/
def assemble (f : FormatSpec) (groupSize : Nat) (negative : Bool) (mark whole tail : List Char) :
    List Char :=
  let front := f.signChars negative ++ mark
  let align := f.align.getD (if f.zeroPad then '=' else '>')
  let group (digits : List Char) := match f.grouping with
    | some c => groupDigits groupSize c digits
    | none => digits
  if align == '=' && f.filling == '0' then
    let target := f.width - front.length - tail.length
    let candidates := (List.range (target + 1)).map fun n => group (zeros n ++ whole)
    let body := match candidates.find? fun b => b.length ≥ target with
      | some b => b
      | none => group whole
    front ++ body ++ tail
  else
    let body := group whole ++ tail
    if align == '=' then
      front ++ List.replicate (f.width - front.length - body.length) f.filling ++ body
    else { f with align := some align }.pad '>' (front ++ body)

/-- The digits of a number up to the first character that is no digit, and the rest. -/
def splitWhole (s : List Char) : List Char × List Char :=
  (s.takeWhile Char.isDigit, s.dropWhile Char.isDigit)

def upperIf (upper : Bool) (s : List Char) : List Char :=
  if upper then s.map Char.toUpper else s

/-- The text of a double that is not negative, in the way the kind asks for. -/
def floatBody (f : FormatSpec) (x : Float) : Except Fault (List Char) :=
  let upper := f.kind == some 'E' || f.kind == some 'F' || f.kind == some 'G'
  if x.isNaN then pure (upperIf upper "nan".toList)
  else if !isFinite x then pure (upperIf upper "inf".toList)
  else
    let b := Binary64.ofFloat x
    match f.kind with
    | some 'e' | some 'E' => pure (exponentChars b (f.precision.getD 6) upper f.alternate)
    | some 'f' | some 'F' =>
      let digits := fixedChars b (f.precision.getD 6)
      pure (if f.alternate && f.precision == some 0 then digits ++ ['.'] else digits)
    | some 'g' | some 'G' | some 'n' =>
      pure (generalChars b (f.precision.getD 6) upper f.alternate false)
    | some '%' =>
      let scaled := ofRatio false (b.m * Nat.pow 2 b.q.toNat * 100) (Nat.pow 2 (-b.q).toNat)
      let digits := fixedChars (Binary64.ofFloat scaled) (f.precision.getD 6)
      pure (digits ++ ['%'])
    | none =>
      match f.precision with
      | some p => pure (generalChars b p false f.alternate true)
      | none => pure (finiteChars b)
    | some _ => throw .badValue

def isZeroText (s : List Char) : Bool :=
  s.all fun c => c == '0' || c == '.' || c == '%'

def formatFloat (f : FormatSpec) (x : Float) : Except Fault (List Char) := do
  if f.kind == some 'n' && f.grouping.isSome then throw .badValue
  let body ← f.floatBody (withSign false x.abs)
  let negative := isNegative x && !x.isNaN && !(f.noNegativeZero && isZeroText body)
  let (whole, tail) := splitWhole body
  if whole.isEmpty then return f.assemble 3 negative [] [] tail
  else return f.assemble 3 negative [] whole tail

def formatInt (f : FormatSpec) (i : Int) : Except Fault (List Char) := do
  if f.noNegativeZero then throw .badValue
  let kind := f.kind.getD 'd'
  if "eEfFgG%".toList.contains kind then f.formatFloat (← floatOfInt i)
  else
    if f.precision.isSome then throw .badValue
    if f.grouping == some ',' && !(kind == 'd') then throw .badValue
    if f.grouping.isSome && (kind == 'c' || kind == 'n') then throw .badValue
    let based (base : Nat) (mark : List Char) : List Char :=
      f.assemble (if base == 10 then 3 else 4) (i < 0) (if f.alternate then mark else [])
        (digitsInBase base i.natAbs) []
    match kind with
    | 'd' | 'n' => return based 10 []
    | 'b' => return based 2 "0b".toList
    | 'o' => return based 8 "0o".toList
    | 'x' => return based 16 "0x".toList
    | 'X' => return upperIf true (based 16 "0x".toList)
    | 'c' =>
      if f.sign.isSome || f.alternate then throw .badValue
      if i < 0 || i > 0x10FFFF then throw .tooLarge
      return f.assemble 3 false [] []
        [Char.ofNat i.toNat]
    | _ => throw .badValue

end FormatSpec

/-- A value in a field. Only texts and numbers understand a specification that is not empty. -/
def formatted (store : Store) (v : Value) (spec : List Char) : Except Fault String :=
  if spec.isEmpty then plainText store v
  else
    match v with
    | .text s => return String.ofList (← (← FormatSpec.parse spec).formatText s.toList)
    | .markup s => return String.ofList (← (← FormatSpec.parse spec).formatText s.toList)
    | .float x => return String.ofList (← (← FormatSpec.parse spec).formatFloat x)
    | v =>
      match v.int? with
      | some i => return String.ofList (← (← FormatSpec.parse spec).formatInt i)
      | none => throw .wrongType

end ClusterDiscovery.Expression
