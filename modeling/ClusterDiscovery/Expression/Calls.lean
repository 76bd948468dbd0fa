import ClusterDiscovery.Expression.CollectionMethods
import ClusterDiscovery.Expression.TextMethods

/-! # Calls

What happens when a value is called: a method of some value, one of the global functions, or an
object that can be called itself. -/

namespace ClusterDiscovery.Expression

open ClusterDiscovery.Number ClusterDiscovery.Text

/-- Progressions longer than this are refused. -/
def maxRange : Nat := 100000

def globalNames : List String := ["range", "dict", "lipsum", "cycler", "joiner"]

def makeRange (args : Arguments) : Except Fault Value := do
  let bounds ← (← args.byPosition 1 3).mapM fun v => match v with
    | none => pure none
    | some v => some <$> intArgument v
  let (start, stop, step) ← match bounds with
    | [some stop, none, none] => pure (0, stop, 1)
    | [some start, some stop, none] => pure (start, stop, 1)
    | [some start, some stop, some step] => pure (start, stop, step)
    | _ => throw .wrongType
  if step == 0 then throw .badValue
  if rangeLength start stop step > maxRange then throw .tooLarge
  return .range start stop step

def callFunction (e : Engine) (name : String) (args : Arguments) : Run Value := do
  match name with
  | "range" => lift (makeRange args)
  | "dict" => Run.alloc (.map (← gathered e [] args))
  | "cycler" =>
    if !args.named.isEmpty then throw .wrongType
    if args.positional.isEmpty then throw .badState
    Run.alloc (.cycler args.positional 0)
  | "joiner" =>
    let [separator] ← lift ((⟨[], ["sep"]⟩ : Signature).bind args) | throw .wrongType
    Run.alloc (.joiner (separator.getD (.text ", ")) false)
  | _ => throw .wrongType

def ratioOf (x : Float) : Except Fault Value :=
  if x.isNaN then throw .badValue
  else if !isFinite x then throw .tooLarge
  else
    let b := Binary64.ofFloat x
    let num := b.m * Nat.pow 2 b.q.toNat
    let den := Nat.pow 2 (-b.q).toNat
    let g := Nat.gcd num den
    let num : Int := (num / g : Nat)
    pure (.tuple [.int (if b.negative then -num else num), .int (den / g : Nat)])

def callIntegerMethod (i : Int) (name : String) (args : Arguments) : Except Fault Value := do
  let _ ← args.byPosition 0 0
  match name with
  | "bit_length" => return .int (if i == 0 then 0 else i.natAbs.log2 + 1)
  | "bit_count" => return .int ((digitsInBase 2 i.natAbs).filter (· == '1')).length
  | "conjugate" => return .int i
  | "as_integer_ratio" => return .tuple [.int i, .int 1]
  | "to_bytes" =>
    if 0 ≤ i && i < 256 then return .bytes [i.toNat.toUInt8] else throw .tooLarge
  | _ => throw .wrongType

/-- A double by the hexadecimal digits of its binary form. -/
def hexadecimalText (x : Float) : String :=
  if !isFinite x then floatText x
  else
    let sign := if isNegative x then "-" else ""
    let b := Binary64.ofFloat x
    if b.m == 0 then sign ++ "0x0.0p+0"
    else
      let exponent := b.q + 52
      let fraction := String.ofList (hexDigits 13 (b.m % Nat.pow 2 52))
      sign ++ "0x" ++ toString (b.m / Nat.pow 2 52) ++ "." ++ fraction ++ "p"
        ++ (if exponent < 0 then "-" else "+") ++ toString exponent.natAbs

def callFloatMethod (x : Float) (name : String) (args : Arguments) : Except Fault Value := do
  let _ ← args.byPosition 0 0
  match name with
  | "is_integer" => return .bool (isIntegral x)
  | "conjugate" => return .float x
  | "hex" => return .text (hexadecimalText x)
  | "as_integer_ratio" => ratioOf x
  | _ => throw .wrongType

def callBytesMethod (b : List UInt8) (name : String) (args : Arguments) : Except Fault Value := do
  match name with
  | "decode" =>
    let [encoding, _] ← (⟨[], ["encoding", "errors"]⟩ : Signature).bind args | throw .wrongType
    let word ← match encoding with
      | none => pure "utf-8"
      | some v => String.ofList <$> textArgument v
    if ["utf-8", "utf8", "UTF-8"].contains word then
      match String.fromUTF8? (ByteArray.mk b.toArray) with
      | some s => return .text s
      | none => throw (.badEncoding false)
    else if ["ascii", "us-ascii"].contains word then
      if b.all (· < 0x80) then
        return .text (String.ofList (b.map fun x => Char.ofNat x.toNat))
      else throw (.badEncoding false)
    else if ["latin-1", "latin1", "iso-8859-1"].contains word then
      return .text (String.ofList (b.map fun x => Char.ofNat x.toNat))
    else throw .unknownEncoding
  | "hex" =>
    let _ ← args.byPosition 0 0
    return .text (String.ofList (b.flatMap fun x => hexDigits 2 x.toNat))
  | _ => throw .wrongType

def callObjectMethod (e : Engine) (id : ObjectId) (o : Object) (name : String)
    (args : Arguments) : Run Value := do
  let _ ← lift (args.byPosition 0 1)
  match o, name with
  | .cycler items position, "next" =>
    Run.write id (.cycler items ((position + 1) % items.length))
    return items[position]?.getD .null
  | .cycler items _, "reset" =>
    Run.write id (.cycler items 0)
    return .null
  | .generator _, "close" =>
    Run.write id (.generator (.drawn []))
    return .null
  | .generator _, "send" =>
    match ← e.next id with
    | some v => return v
    | none => return .undefined ⟨"value was undefined because a callable raised a " ++
        "StopIteration exception", false⟩
  | _, _ => throw .wrongType

def callMethod (e : Engine) (receiver : Value) (name : String) (args : Arguments) :
    Run Value := do
  match receiver with
  | .text s => callTextMethod e ⟨s.toList, false⟩ name args
  | .markup s => callTextMethod e ⟨s.toList, true⟩ name args
  | .int i => lift (callIntegerMethod i name args)
  | .float x => lift (callFloatMethod x name args)
  | .bytes b => lift (callBytesMethod b name args)
  | .tuple items => callSequenceMethod items name args
  | .group key members => callSequenceMethod [key, members] name args
  | .range start stop step => callRangeMethod (rangeItems start stop step) name args
  | .view kind id =>
    let [some other] ← lift (args.byPosition 1 1) | throw .wrongType
    let others ← itemsOf e other
    let store ← get
    return .bool (!(← lift (anyOf (fun v => anyOf (equal store v) others)
      (store.viewItems kind id))))
  | .function "dict" => mapFromKeys e args
  | .ref id =>
    match ← Run.read id with
    | .list items => callListMethod e id items name args
    | .map entries => callMapMethod e id entries name args
    | o => callObjectMethod e id o name args
  | _ => throw .wrongType

def callValue (e : Engine) (f : Value) (args : Arguments) : Run Value := do
  match f with
  | .undefined why => throw why.fault
  | .method receiver name => callMethod e receiver name args
  | .function name => callFunction e name args
  | .unbound _ name =>
    match args.positional with
    | .ref id :: rest =>
      match ← Run.read id with
      | .map entries => callMapMethod e id entries name ⟨rest, args.named⟩
      | _ => throw .wrongType
    | _ => throw .wrongType
  | .ref id =>
    match ← Run.read id with
    | .joiner separator used =>
      let _ ← lift (args.byPosition 0 0)
      Run.write id (.joiner separator true)
      return if used then separator else .text ""
    | _ => throw .wrongType
  | _ => throw .wrongType

def isCallable (store : Store) (f : Value) : Bool :=
  match f with
  | .method .. | .function _ | .unbound .. | .undefined _ => true
  | .ref id => match store[id]? with
    | some (.joiner ..) => true
    | _ => false
  | _ => false

end ClusterDiscovery.Expression
