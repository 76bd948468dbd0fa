import ClusterDiscovery.Expression.Display
import ClusterDiscovery.Number.Binary64

/-! # Operators

Arithmetic on numbers, joining and repetition of sequences, and positions in sequences. Division
of integers gives a double; floored division and its remainder follow the sign of the divisor. -/

namespace ClusterDiscovery.Expression

open ClusterDiscovery.Number

/-- A fault of a pure step becomes the fault of the computation. -/
def lift {α : Type} (r : Except Fault α) : Run α :=
  match r with
  | .ok a => pure a
  | .error f => throw f

/-- The double nearest to an integer, where there is one. -/
def floatOfInt (i : Int) : Except Fault Float :=
  let x := ofInt i
  if isFinite x then pure x else throw .tooLarge

def floatOf (n : Int ⊕ Float) : Except Fault Float :=
  match n with
  | .inl i => floatOfInt i
  | .inr x => pure x

def complexOf? : Value → Option (Except Fault (Float × Float))
  | .complex r i => some (pure (r, i))
  | v => v.number?.map fun n => return (← floatOf n, 0.0)

inductive Arithmetic where
  | add | sub | mul | div | floorDiv | rem | pow
deriving Repr, DecidableEq

def complexQuotient (a b c d : Float) : Except Fault (Float × Float) :=
  if c == 0.0 && d == 0.0 then throw .divisionByZero
  else if c.abs ≥ d.abs then
    let ratio := d / c
    let denominator := c + d * ratio
    pure ((a + b * ratio) / denominator, (b - a * ratio) / denominator)
  else
    let ratio := c / d
    let denominator := c * ratio + d
    pure ((a * ratio + b) / denominator, (b * ratio - a) / denominator)

def complexPower (a b c d : Float) : Except Fault (Float × Float) :=
  if c == 0.0 && d == 0.0 then pure (1.0, 0.0)
  else if a == 0.0 && b == 0.0 then
    if d != 0.0 || c < 0.0 then throw .divisionByZero else pure (0.0, 0.0)
  else
    let size := (a * a + b * b).sqrt
    let angle := Float.atan2 b a
    let length := Float.pow size c
    let length := if d != 0.0 then length * (-angle * d).exp else length
    let phase := angle * c
    let phase := if d != 0.0 then phase + d * size.log else phase
    pure (length * phase.cos, length * phase.sin)

def complexArithmetic (op : Arithmetic) (x y : Float × Float) : Except Fault Value := do
  let (a, b) := x
  let (c, d) := y
  match op with
  | .add => return .complex (a + c) (b + d)
  | .sub => return .complex (a - c) (b - d)
  | .mul => return .complex (a * c - b * d) (a * d + b * c)
  | .div =>
    let (r, i) ← complexQuotient a b c d
    return .complex r i
  | .pow =>
    let (r, i) ← complexPower a b c d
    return .complex r i
  | .floorDiv | .rem => throw .wrongType

/-- The quotient of two integers, rounded once. -/
def trueQuotient (a b : Int) : Except Fault Value :=
  if b == 0 then throw .divisionByZero
  else
    let x := ofRatio ((a < 0) != (b < 0)) a.natAbs b.natAbs
    if isFinite x then pure (.float x) else throw .tooLarge

/-- Powers of doubles. A negative base with a fractional exponent leaves the real line. -/
def floatPower (x y : Float) : Except Fault Value :=
  if x == 0.0 && y < 0.0 && isFinite y then throw .divisionByZero
  else if x < 0.0 && isFinite x && isFinite y && !isIntegral y then
    complexArithmetic .pow (x, 0.0) (y, 0.0)
  else
    let r := Float.pow x y
    if !isFinite r && !r.isNaN && isFinite x && isFinite y then throw .tooLarge
    else pure (.float r)

/-- A bound on resources, not on numbers: powers beyond this many binary digits are not
computed. -/
def powerBudget : Nat := 50000000

def intPower (a b : Int) : Except Fault Value :=
  if b ≥ 0 then
    if a.natAbs ≤ 1 && b > 1 then pure (.int (if a < 0 && b % 2 == 0 then 1 else a))
    else if a.natAbs > 1 && (a.natAbs.log2 + 1) * b.toNat > powerBudget then throw .tooLarge
    else pure (.int (Int.pow a b.toNat))
  else if a == 0 then throw .divisionByZero
  else do floatPower (← floatOfInt a) (← floatOfInt b)

def intArithmetic (op : Arithmetic) (a b : Int) : Except Fault Value :=
  match op with
  | .add => pure (.int (a + b))
  | .sub => pure (.int (a - b))
  | .mul => pure (.int (a * b))
  | .div => trueQuotient a b
  | .floorDiv => if b == 0 then throw .divisionByZero else pure (.int (Int.fdiv a b))
  | .rem => if b == 0 then throw .divisionByZero else pure (.int (Int.fmod a b))
  | .pow => intPower a b

def floatArithmetic (op : Arithmetic) (x y : Float) : Except Fault Value :=
  match op with
  | .add => pure (.float (x + y))
  | .sub => pure (.float (x - y))
  | .mul => pure (.float (x * y))
  | .div => if y == 0.0 then throw .divisionByZero else pure (.float (x / y))
  | .floorDiv =>
    if y == 0.0 then throw .divisionByZero else pure (.float (flooredQuotient x y))
  | .rem => if y == 0.0 then throw .divisionByZero else pure (.float (flooredRemainder x y))
  | .pow => floatPower x y

/-- Arithmetic on two numbers; nothing when one operand is no number. -/
def arithmetic? (op : Arithmetic) (a b : Value) : Option (Except Fault Value) :=
  match a.number?, b.number? with
  | some (.inl i), some (.inl j) => some (intArithmetic op i j)
  | some x, some y => some (do floatArithmetic op (← floatOf x) (← floatOf y))
  | _, _ =>
    match complexOf? a, complexOf? b with
    | some x, some y => some (do complexArithmetic op (← x) (← y))
    | _, _ => none

/-- The characters that markup gives a meaning are written as references. -/
def escapeChar : Char → List Char
  | '&' => "&amp;".toList
  | '<' => "&lt;".toList
  | '>' => "&gt;".toList
  | '\'' => "&#39;".toList
  | '"' => "&#34;".toList
  | c => [c]

def escapeMarkup (s : String) : String := String.ofList (s.toList.flatMap escapeChar)

def escapedText (store : Store) : Value → Except Fault String
  | .markup s => pure s
  | v => return escapeMarkup (← plainText store v)

/-- Undefined operands fail with their own message, the left one first. -/
def refuseUndefined (a b : Value) : Except Fault Unit :=
  match a, b with
  | .undefined why, _ => throw why.fault
  | _, .undefined why => throw why.fault
  | _, _ => pure ()

/-- A bound on resources, too: sequences longer than this are not built by repetition. -/
def repetitionBudget : Nat := 100000000

/-- Lengths and counts lie below this bound, and not below its negative. -/
def sizeBound : Int := 9223372036854775808

def isSize (i : Int) : Bool := -sizeBound ≤ i && i < sizeBound

/-- How often a sequence of `size` elements is repeated. -/
def repetitions (size : Nat) (times : Int) : Except Fault Nat :=
  if !isSize times || size * times.toNat > repetitionBudget then throw .tooLarge
  else pure times.toNat

def repeatList {α : Type} (times : Nat) (items : List α) : List α :=
  (List.replicate times items).flatten

def repeatText (times : Int) (s : String) : Except Fault String := do
  return String.ofList (repeatList (← repetitions s.length times) s.toList)

def add (a b : Value) : Run Value := do
  match arithmetic? .add a b with
  | some r => lift r
  | none =>
    lift (refuseUndefined a b)
    let store ← get
    match a, b with
    | .text s, .text t => return .text (s ++ t)
    | .markup s, .text t => return .markup (s ++ escapeMarkup t)
    | .text s, .markup t => return .markup (escapeMarkup s ++ t)
    | .markup s, .markup t => return .markup (s ++ t)
    | .bytes s, .bytes t => return .bytes (s ++ t)
    | a, b =>
      match a.tuple?, b.tuple? with
      | some xs, some ys => return .tuple (xs ++ ys)
      | _, _ =>
        match store.list? a, store.list? b with
        | some xs, some ys => Run.allocList (xs ++ ys)
        | _, _ => throw .wrongType

/-- A sequence repeated a number of times; nothing when the operand is no sequence. -/
def repeated? (store : Store) (v : Value) (times : Int) : Option (Run Value) :=
  match v with
  | .text s => some (do return .text (← lift (repeatText times s)))
  | .markup s => some (do return .markup (← lift (repeatText times s)))
  | .bytes b => some (do return .bytes (repeatList (← lift (repetitions b.length times)) b))
  | v =>
    match v.tuple? with
    | some items => some (do
        return .tuple (repeatList (← lift (repetitions items.length times)) items))
    | none => (store.list? v).map fun items => do
        Run.allocList (repeatList (← lift (repetitions items.length times)) items)

def mul (a b : Value) : Run Value := do
  match arithmetic? .mul a b with
  | some r => lift r
  | none =>
    lift (refuseUndefined a b)
    let store ← get
    let attempt (sequence count : Value) : Option (Run Value) :=
      count.int?.bind fun times => repeated? store sequence times
    match attempt a b with
    | some r => r
    | none => (attempt b a).getD (throw .wrongType)

/-- The operators that only numbers have. -/
def numeric (op : Arithmetic) (a b : Value) : Run Value :=
  match arithmetic? op a b with
  | some r => lift r
  | none => do
    lift (refuseUndefined a b)
    throw .wrongType

def negate : Value → Run Value
  | .undefined why => throw why.fault
  | .float x => return .float (-x)
  | .complex r i => return .complex (-r) (-i)
  | v => match v.int? with
    | some i => return .int (-i)
    | none => throw .wrongType

def affirm : Value → Run Value
  | .undefined why => throw why.fault
  | .float x => return .float x
  | .complex r i => return .complex r i
  | v => match v.int? with
    | some i => return .int i
    | none => throw .wrongType

/-- A position counted from the end when it is negative. -/
def position? (size : Nat) (i : Int) : Option Nat :=
  let i := if i < 0 then i + size else i
  if 0 ≤ i && i < size then some i.toNat else none

def elementAt {α : Type} (items : List α) (i : Int) : Except Fault α :=
  match (position? items.length i).bind fun n => items[n]? with
  | some x => pure x
  | none => throw .outOfRange

/-- The part of a sequence that a slice names. -/
structure SliceBounds where
  start : Option Int
  stop : Option Int
  step : Option Int

def sliceBound : Value → Except Fault (Option Int)
  | .null => pure none
  | v => match v.int? with
    | some i => pure (some i)
    | none => throw .wrongType

/-- The positions that a slice of a sequence visits: first, end and step. -/
def SliceBounds.resolve (b : SliceBounds) (size : Nat) : Except Fault (Int × Int × Int) :=
  let step := b.step.getD 1
  if step == 0 then throw .badValue
  else
    let size : Int := size
    let lowest : Int := if step < 0 then -1 else 0
    let highest : Int := if step < 0 then size - 1 else size
    let clamp (i : Int) : Int :=
      if i < 0 then (if i + size < lowest then lowest else i + size)
      else if i > highest then highest else i
    let start := match b.start with
      | some i => clamp i
      | none => if step < 0 then highest else 0
    let stop := match b.stop with
      | some i => clamp i
      | none => if step < 0 then -1 else size
    pure (start, stop, step)

def sliceItems {α : Type} (b : SliceBounds) (items : List α) : Except Fault (List α) := do
  let (start, stop, step) ← b.resolve items.length
  let array := items.toArray
  return (List.range (rangeLength start stop step)).filterMap fun (i : Nat) =>
    array[(start + step * (i : Int)).toNat]?

def sliceText (b : SliceBounds) (s : String) : Except Fault String := do
  return String.ofList (← sliceItems b s.toList)

def sliceOf (v start stop step : Value) : Run Value := do
  let bounds : Except Fault SliceBounds := do
    return ⟨← sliceBound start, ← sliceBound stop, ← sliceBound step⟩
  let store ← get
  match v with
  | .undefined why => throw why.fault
  | .text s => return .text (← lift (sliceText (← lift bounds) s))
  | .markup s => return .markup (← lift (sliceText (← lift bounds) s))
  | .bytes s => return .bytes (← lift (sliceItems (← lift bounds) s))
  | .range first last by_ => do
    let size := rangeLength first last by_
    let (i, j, k) ← lift ((← lift bounds).resolve size)
    return .range (first + by_ * i) (first + by_ * j) (by_ * k)
  | v =>
    match v.tuple? with
    | some items => return .tuple (← lift (sliceItems (← lift bounds) items))
    | none =>
      match store.list? v with
      | some items => Run.allocList (← lift (sliceItems (← lift bounds) items))
      | none => throw .wrongType

def subscript (v key : Value) : Run Value := do
  let store ← get
  let at_ {α : Type} (items : List α) : Except Fault α :=
    match key.int? with
    | some i => elementAt items i
    | none => throw .wrongType
  match v with
  | .undefined why => throw why.fault
  | .text s => return .text (String.singleton (← lift (at_ s.toList)))
  | .markup s => return .markup (String.singleton (← lift (at_ s.toList)))
  | .bytes b => return .int (← lift (at_ b)).toNat
  | .range start stop step =>
    match key.int? with
    | none => throw .wrongType
    | some i =>
      match position? (rangeLength start stop step) i with
      | some n => return .int (start + step * n)
      | none => throw .outOfRange
  | v =>
    match v.tuple? with
    | some items => lift (at_ items)
    | none =>
      match store.list? v with
      | some items => lift (at_ items)
      | none =>
        match store.map? v with
        | some entries =>
          match ← lift (lookup? store entries key) with
          | some found => return found
          | none => throw .missingKey
        | none => throw .wrongType

end ClusterDiscovery.Expression
