import ClusterDiscovery.Expression.PercentTemplate
import ClusterDiscovery.Expression.Signature
import ClusterDiscovery.Number.Numeral

/-! # Filters on numbers

Conversion to numbers with a default for what is none, rounding and absolute values. -/

namespace ClusterDiscovery.Expression

open ClusterDiscovery.Number

/-- A value as a double. Texts are read; other kinds are refused. -/
def toFloat (v : Value) : Except Fault Float :=
  match v with
  | .undefined why => throw why.fault
  | .bytes b =>
    match readFloat? (b.map fun x => Char.ofNat x.toNat) with
    | some x => pure x
    | none => throw .badValue
  | v =>
    match v.text?, v.number? with
    | some s, _ =>
      match readFloat? s.toList with
      | some x => pure x
      | none => throw .badValue
    | none, some n => floatOf n
    | none, none => throw .wrongType

/-- An integer that a text reads as, where the base is 0 or between 2 and 36. -/
def textToInt (s : String) (base : Value) : Except Fault Int := do
  let base ← intArgument base
  if base != 0 && (base < 2 || base > 36) then throw .badValue
  match readInt? base.toNat s.toList with
  | some i => if writableInt i then return i else throw .badValue
  | none => throw .badValue

def toInt (v base : Value) : Except Fault Int :=
  match v.text? with
  | some s => textToInt s base
  | none =>
    match v with
    | .bytes b =>
      match readInt? 10 (b.map fun x => Char.ofNat x.toNat) with
      | some i => pure i
      | none => throw .badValue
    | v => PercentTemplate.wholeNumber v

/-- Faults that mean that a value reads as no number. -/
def Fault.isUnreadable : Fault → Bool
  | .wrongType | .badValue => true
  | _ => false

def floatFilter (args : Arguments) (v : Value) : Except Fault Value := do
  let [_, default] ← (⟨["value"], ["default"]⟩ : Signature).bind ⟨v :: args.positional, args.named⟩
    | throw .wrongType
  match toFloat v with
  | .ok x => return .float x
  | .error f => if Fault.isUnreadable f then return default.getD (.float 0.0) else throw f

/-- The value as an integer, the integer part of the double that it reads as, or the default. -/
def intFilter (args : Arguments) (v : Value) : Except Fault Value := do
  let [_, default, base] ← (⟨["value"], ["default", "base"]⟩ : Signature).bind
    ⟨v :: args.positional, args.named⟩ | throw .wrongType
  match toInt v (base.getD (.int 10)) with
  | .ok i => return .int i
  | .error f =>
    if !Fault.isUnreadable f then throw f
    match (do PercentTemplate.wholeNumber (.float (← toFloat v)) : Except Fault Int) with
    | .ok i => return .int i
    | .error f =>
      if Fault.isUnreadable f || f == .tooLarge then return default.getD (.int 0) else throw f

def absolute (v : Value) : Except Fault Value :=
  match v with
  | .float x => pure (.float x.abs)
  | .complex r i => pure (.float (r * r + i * i).sqrt)
  | v => match v.int? with
    | some i => pure (.int i.natAbs)
    | none => throw .wrongType

/-- Rounding to nearest. Integers stay integers; doubles too unless the precision is null. -/
def roundCommon (v precision : Value) : Except Fault Value :=
  match v, precision with
  | .float x, .null =>
    if x.isNaN then throw .badValue else if !isFinite x then throw .tooLarge
    else pure (.int (roundInt x))
  | .float x, p => do
    let r := roundPlaces x (← intArgument p)
    if isFinite x && !isFinite r then throw .tooLarge else return .float r
  | v, p =>
    match v.int? with
    | none => throw .wrongType
    | some i =>
      match p with
      | .null => pure (.int i)
      | p => do
        let n ← intArgument p
        return .int (if n ≥ 0 then i else roundToTens i (-n).toNat)

/-- The integer next to a number on one side. -/
def roundSide (toSide : Float → Int) (v : Value) : Except Fault Int :=
  match v.number? with
  | some (.inl i) => pure i
  | some (.inr x) =>
    if x.isNaN then throw .badValue else if !isFinite x then throw .tooLarge else pure (toSide x)
  | none => throw .wrongType

def badMethod : Fault := .badFilterArgument "method must be common, ceil or floor"

def roundFilter (args : Arguments) (v : Value) : Run Value := do
  let [_, precision, method] ← lift ((⟨["value"], ["precision", "method"]⟩ : Signature).bind
    ⟨v :: args.positional, args.named⟩) | throw .wrongType
  let precision := precision.getD (.int 0)
  let method := method.getD (.text "common")
  if !hashable (← get) method then throw .wrongType
  let side (toSide : Float → Int) : Run Value := do
    let unit ← numeric .pow (.int 10) precision
    let n ← lift (roundSide toSide (← mul v unit))
    numeric .div (.int n) (← numeric .pow (.int 10) precision)
  match method.text? with
  | some "common" => lift (roundCommon v precision)
  | some "ceil" => side ceilInt
  | some "floor" => side floorInt
  | _ => throw badMethod

def numberFilter? (name : String) (v : Value) (args : Arguments) : Option (Run Value) :=
  match name with
  | "abs" => some do
      let _ ← lift (args.byPosition 0 0)
      lift (absolute v)
  | "float" => some (lift (floatFilter args v))
  | "int" => some (lift (intFilter args v))
  | "round" => some (roundFilter args v)
  | _ => none

end ClusterDiscovery.Expression
