import ClusterDiscovery.Expression.Lazies
import ClusterDiscovery.Expression.Nesting
import ClusterDiscovery.Expression.Syntax

/-! # Evaluation

The value of an expression in a scope of names. Operands are evaluated from left to right, and
only as far as the result needs them. -/

namespace ClusterDiscovery.Expression

open ClusterDiscovery.Number

def engine : Engine := Engine.ofDepth callDepth

abbrev Scope := List (String × Value)

/-- A name of the scope, a global function, or undefined. -/
def Scope.lookup (scope : Scope) (name : String) : Value :=
  match scope.find? fun entry => entry.1 == name with
  | some (_, v) => v
  | none =>
    if globalNames.contains name then .function name
    else if name == "self" then .environment
    else .undefined (Missing.ofName name)

mutual

/-- A number that no literal can spell stands somewhere inside a constant. -/
def Literal.unspellable : Literal → Bool
  | .float x => !isFinite x
  | .complex r i => !isFinite r || !isFinite i
  | .tuple items => anyUnspellable items
  | .list items => anyUnspellable items
  | .map entries => anyEntryUnspellable entries
  | _ => false

def anyUnspellable : List Literal → Bool
  | [] => false
  | l :: rest => l.unspellable || anyUnspellable rest

def anyEntryUnspellable : List (Literal × Literal) → Bool
  | [] => false
  | (k, v) :: rest => k.unspellable || v.unspellable || anyEntryUnspellable rest

end

mutual

def Literal.make : Literal → Run Value
  | .null => return .null
  | .bool b => return .bool b
  | .int i => return .int i
  | .float x => return .float x
  | .complex r i => return .complex r i
  | .text s => return .text s
  | .markup s => return .markup s
  | .range start stop step => return .range start stop step
  | .tuple items => return .tuple (← makeAll items)
  | .list items => do Run.allocList (← makeAll items)
  | .map entries => do Run.alloc (.map (← makeEntries entries))

def makeAll : List Literal → Run (List Value)
  | [] => return []
  | l :: rest => return (← l.make) :: (← makeAll rest)

def makeEntries : List (Literal × Literal) → Run (List (Value × Value))
  | [] => return []
  | (k, v) :: rest => do
    let key ← k.make
    let value ← v.make
    return (key, value) :: (← makeEntries rest)

end

def applyUnary (op : UnaryOperator) (v : Value) : Run Value := do
  match op with
  | .not => return .bool (!truthy (← get) v)
  | .negate => negate v
  | .affirm => affirm v

def applyBinary (op : Arithmetic) (a b : Value) : Run Value :=
  match op with
  | .add => add a b
  | .mul => mul a b
  | .rem => rem a b
  | .sub => difference a b
  | op => numeric op a b
where
  /-- Subtraction; a collection without the elements of another where the left side is a set. -/
  difference (a b : Value) : Run Value := do
    let store ← get
    match store.set? a with
    | none => numeric .sub a b
    | some items =>
      lift (refuseUndefined a b)
      let others ← itemsOf engine b
      let kept ← items.filterM fun v => do
        return !(← lift (anyOf (fun w => equal store v w) others))
      Run.alloc (.set kept)

def applyCompare (op : CompareOperator) (a b : Value) : Run Bool := do
  match op with
  | .eq => lift (equal (← get) a b)
  | .ne => return !(← lift (equal (← get) a b))
  | .order o => lift (ordered (← get) o a b)
  | .isIn => isIn engine a b
  | .notIn => return !(← isIn engine a b)

/-- The arguments that a starred value stands for. -/
def spread (v : Value) : Run (List Value) := itemsOf engine v

/-- The named arguments that a doubly starred value stands for. -/
def spreadNamed (v : Value) : Run (List (String × Value)) := do
  match v with
  | .undefined why => throw why.fault
  | v =>
    match (← get).map? v with
    | none => throw .wrongType
    | some entries => entries.mapM fun (k, w) =>
      match k.text? with
      | some name => pure (name, w)
      | none => throw .wrongType

def hasRepeats : List String → Bool
  | [] => false
  | x :: rest => rest.contains x || hasRepeats rest

/-- Named arguments where a later one replaces an earlier one of the same name. -/
def lastWins (named : List (String × Value)) : List (String × Value) :=
  named.foldl (fun acc (name, v) =>
    if acc.any fun entry => entry.1 == name then
      acc.map fun entry => if entry.1 == name then (name, v) else entry
    else acc ++ [(name, v)]) []

/-- The named arguments of a call together with those of a doubly starred value. -/
def joinNamed (named extra : List (String × Value)) : Except Fault (List (String × Value)) :=
  if named.any fun entry => reservedWords.contains entry.1 then pure (lastWins (named ++ extra))
  else if hasRepeats ((named ++ extra).map (·.1)) then throw .wrongType
  else pure (named ++ extra)

/-- An operation that does not exist takes any arguments by position. -/
def refuseUnknown (kind name : String) (args : Arguments) : Run Value :=
  if args.named.isEmpty then
    throw (.unknownOperation ("No " ++ kind ++ " named " ++ Text.quoted name ++ " found."))
  else throw .wrongType

def elseless : Missing :=
  ⟨"the inline if-expression on line 1 evaluated to false and no else section was defined.", false⟩

mutual

def evaluate (scope : Scope) : Expr → Run Value
  | .literal l => if l.unspellable then throw .unspellableNumber else l.make
  | .name s => return scope.lookup s
  | .tuple items => return .tuple (← evaluateAll scope items)
  | .list items => do Run.allocList (← evaluateAll scope items)
  | .map entries => do
    let entries ← evaluateEntries scope entries
    let store ← get
    Run.alloc (.map (← lift (entries.foldlM (fun acc (k, v) => putEntry store acc k v) [])))
  | .unary op e => do applyUnary op (← evaluate scope e)
  | .binary op a b => do
    let x ← evaluate scope a
    let y ← evaluate scope b
    applyBinary op x y
  | .both a b => do
    let x ← evaluate scope a
    if truthy (← get) x then evaluate scope b else return x
  | .either a b => do
    let x ← evaluate scope a
    if truthy (← get) x then return x else evaluate scope b
  | .concat items => do
    let values ← evaluateAll scope items
    let store ← get
    return .text (String.join (← lift (values.mapM (plainText store))))
  | .compare first rest => do
    let x ← evaluate scope first
    evaluateChain scope x rest
  | .conditional test yes no => do
    let t ← evaluate scope test
    if truthy (← get) t then evaluate scope yes else evaluateElse scope no
  | .attribute e name => do getAttribute (← evaluate scope e) name
  | .item e (.slice start stop step) => do
    let v ← evaluate scope e
    let start ← evaluateBound scope start
    let stop ← evaluateBound scope stop
    let step ← evaluateBound scope step
    sliceOf v start stop step
  | .item e key => do
    let v ← evaluate scope e
    let key ← evaluate scope key
    getItem v key
  | .slice _ _ _ => throw .invalidForm
  | .call f args => do
    let callee ← evaluate scope f
    let args ← evaluateInputs scope args
    callValue engine callee args
  | .filter e name args => do
    let v ← evaluate scope e
    let args ← evaluateInputs scope args
    if filterNames.contains name then runFilter engine name v args
    else refuseUnknown "filter" name args
  | .test e name args => do
    let v ← evaluate scope e
    let args ← evaluateInputs scope args
    if testNames.contains name then runTest engine name v args
    else refuseUnknown "test" name args

def evaluateAll (scope : Scope) : List Expr → Run (List Value)
  | [] => return []
  | e :: rest => do
    let v ← evaluate scope e
    return v :: (← evaluateAll scope rest)

def evaluateEntries (scope : Scope) : List (Expr × Expr) → Run (List (Value × Value))
  | [] => return []
  | (k, e) :: rest => do
    let key ← evaluate scope k
    let value ← evaluate scope e
    return (key, value) :: (← evaluateEntries scope rest)

def evaluateNamed (scope : Scope) : List (String × Expr) → Run (List (String × Value))
  | [] => return []
  | (name, e) :: rest => do
    let value ← evaluate scope e
    return (name, value) :: (← evaluateNamed scope rest)

/-- A chain of comparisons, up to the first that does not hold. -/
def evaluateChain (scope : Scope) (left : Value) :
    List (CompareOperator × Expr) → Run Value
  | [] => return .bool true
  | (op, e) :: rest => do
    let right ← evaluate scope e
    if ← applyCompare op left right then evaluateChain scope right rest else return .bool false

def evaluateElse (scope : Scope) : Option Expr → Run Value
  | none => return .undefined elseless
  | some e => evaluate scope e

def evaluateBound (scope : Scope) : Option Expr → Run Value
  | none => return .null
  | some e => evaluate scope e

def evaluateInputs (scope : Scope) : Inputs → Run Arguments
  | .mk positional named rest namedRest => do
    let args ← evaluateAll scope positional
    let more ← evaluateSpread scope rest
    let named ← evaluateNamed scope named
    let extra ← evaluateNamedSpread scope namedRest
    return ⟨args ++ more, ← lift (joinNamed named extra)⟩

def evaluateSpread (scope : Scope) : Option Expr → Run (List Value)
  | none => return []
  | some e => do spread (← evaluate scope e)

def evaluateNamedSpread (scope : Scope) : Option Expr → Run (List (String × Value))
  | none => return []
  | some e => do spreadNamed (← evaluate scope e)

end

end ClusterDiscovery.Expression
