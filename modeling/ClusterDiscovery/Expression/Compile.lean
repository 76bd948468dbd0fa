import ClusterDiscovery.Expression.Evaluate
import ClusterDiscovery.Expression.Parser

/-! # Compilation

An expression is checked and its constant parts are computed before it is evaluated for the first
time. A constant part that cannot be computed, or whose value cannot be written as a literal, is
left for evaluation. -/

namespace ClusterDiscovery.Expression

open ClusterDiscovery.Number

def attempt (r : Run (Option Value)) : Run (Option Value) := tryCatch r fun _ => return none

def computed (r : Run Value) : Run (Option Value) := do return some (← r)

def deferredFilters : List String := ["map", "select", "reject", "selectattr", "rejectattr"]

/-- An element or a part of a constant, where a part that does not exist is undefined. -/
def constantPart (v start stop step : Value) : Run Value :=
  tryCatch (sliceOf v start stop step) fun f =>
    if Fault.isAbsence f then undefinedMember v (.tuple [start, stop, step]) else throw f

mutual

/-- The value of an expression without names and calls; nothing when it has no such value. Keys
that no mapping can have, and numbers too long to write, are faults. -/
def constant : Expr → Run (Option Value)
  | .literal l => computed l.make
  | .name _ => return none
  | .tuple items => do return (← constantAll items).map .tuple
  | .list items => do
    match ← constantAll items with
    | none => return none
    | some items => computed (Run.allocList items)
  | .map entries => do
    match ← constantEntries [] entries with
    | none => return none
    | some entries => computed (Run.alloc (.map entries))
  | .unary op e => attempt do
    match ← constant e with
    | none => return none
    | some v => computed (applyUnary op v)
  | .binary op a b => attempt do
    match ← constant a with
    | none => return none
    | some x =>
      match ← constant b with
      | none => return none
      | some y => computed (applyBinary op x y)
  | .both a b => do
    match ← constant a with
    | none => return none
    | some x => if truthy (← get) x then constant b else return some x
  | .either a b => do
    match ← constant a with
    | none => return none
    | some x => if truthy (← get) x then return some x else constant b
  | .concat items => do return (← constantTexts items).map fun s => .text s
  | .compare first rest => do
    match ← constant first with
    | none => return none
    | some x => attempt (constantChain x rest)
  | .conditional test yes no => do
    match ← constant test with
    | none => return none
    | some t => if truthy (← get) t then constant yes else constantElse no
  | .attribute e name => attempt do
    match ← constant e with
    | none => return none
    | some v => computed (getAttribute v name)
  | .item e (.slice start stop step) => attempt do
    match ← constant e, ← constantBound start, ← constantBound stop, ← constantBound step with
    | some v, some start, some stop, some step => computed (constantPart v start stop step)
    | _, _, _, _ => return none
  | .item e key => attempt do
    match ← constant e with
    | none => return none
    | some v =>
      match ← constant key with
      | none => return none
      | some key => computed (getItem v key)
  | .slice _ _ _ => return none
  | .call _ _ => return none
  | .filter e name args => do
    if !filterNames.contains name || deferredFilters.contains name then return none
    match ← constantInputs args with
    | none => return none
    | some args =>
      match ← constant e with
      | none => return none
      | some v => attempt (computed (runFilter engine name v args))
  | .test e name args => do
    if !testNames.contains name then return none
    match ← constantInputs args with
    | none => return none
    | some args =>
      match ← constant e with
      | none => return none
      | some v => attempt (computed (runTest engine name v args))

def constantAll : List Expr → Run (Option (List Value))
  | [] => return some []
  | e :: rest => do
    match ← constant e with
    | none => return none
    | some v => return (← constantAll rest).map (v :: ·)

def constantEntries (entries : List (Value × Value)) :
    List (Expr × Expr) → Run (Option (List (Value × Value)))
  | [] => return some entries
  | (k, e) :: rest => do
    match ← constant k with
    | none => return none
    | some key =>
      match ← constant e with
      | none => return none
      | some value =>
        let entries ← lift (putEntry (← get) entries key value)
        constantEntries entries rest

def constantTexts : List Expr → Run (Option String)
  | [] => return some ""
  | e :: rest => do
    match ← constant e with
    | none => return none
    | some v =>
      let s ← lift (plainText (← get) v)
      return (← constantTexts rest).map (s ++ ·)

def constantChain (left : Value) : List (CompareOperator × Expr) → Run (Option Value)
  | [] => return some (.bool true)
  | (op, e) :: rest => do
    match ← constant e with
    | none => return none
    | some right =>
      if ← applyCompare op left right then constantChain right rest
      else return some (.bool false)

def constantElse : Option Expr → Run (Option Value)
  | none => return none
  | some e => constant e

def constantBound : Option Expr → Run (Option Value)
  | none => return some .null
  | some e => constant e

def constantNamed : List (String × Expr) → Run (Option (List (String × Value)))
  | [] => return some []
  | (name, e) :: rest => do
    match ← constant e with
    | none => return none
    | some v => return (← constantNamed rest).map ((name, v) :: ·)

/-- Constant arguments. A later argument of a name replaces an earlier one. -/
def constantInputs : Inputs → Run (Option Arguments)
  | .mk positional named rest namedRest => do
    match ← constantAll positional with
    | none => return none
    | some args =>
      match ← constantNamed named with
      | none => return none
      | some named =>
        match ← constantSpread rest with
        | none => return none
        | some more =>
          match ← constantNamedSpread namedRest with
          | none => return none
          | some extra => return some ⟨args ++ more, lastWins (named ++ extra)⟩

def constantSpread : Option Expr → Run (Option (List Value))
  | none => return some []
  | some e => tryCatch (do
      match ← constant e with
      | none => return none
      | some v => return some (← spread v)) fun _ => return none

def constantNamedSpread : Option Expr → Run (Option (List (String × Value)))
  | none => return some []
  | some e => tryCatch (do
      match ← constant e with
      | none => return none
      | some v => return some (← spreadNamed v)) fun _ => return none

end

/-- The literal of a value that can be written down; `depth` bounds the nesting. -/
def literalOf? : Nat → Store → Value → Option Literal
  | 0, _, _ => none
  | depth + 1, store, v =>
    match v with
    | .null => some .null
    | .bool b => some (.bool b)
    | .int i => some (.int i)
    | .float x => some (.float x)
    | .complex r i => some (.complex r i)
    | .text s => some (.text s)
    | .markup s => some (.markup s)
    | .range start stop step => some (.range start stop step)
    | .tuple items => (items.mapM (literalOf? depth store)).map .tuple
    | .ref id =>
      match store[id]? with
      | some (.list items) => (items.mapM (literalOf? depth store)).map .list
      | some (.map entries) =>
        (entries.mapM fun (k, w) => do
          return (← literalOf? depth store k, ← literalOf? depth store w)).map .map
      | _ => none
    | _ => none

/-- What a step of compilation gives, or the issue that it meets. -/
abbrev Compile := Except SyntaxIssue

/-- An expression as a literal where it is constant. -/
def foldNode (e : Expr) : Compile Expr :=
  match (constant e).run #[] with
  | .ok (some v) store =>
    match literalOf? nestingLimit store v with
    | some l => pure (.literal l)
    | none => pure e
  | .ok none _ => pure e
  | .error f _ => throw (.fault f)

mutual

/-- Constant parts become literals, from the inside out. -/
def fold : Expr → Compile Expr
  | .literal l => pure (.literal l)
  | .name s => pure (.name s)
  | .tuple items => do foldNode (.tuple (← foldAll items))
  | .list items => do foldNode (.list (← foldAll items))
  | .map entries => do foldNode (.map (← foldEntries entries))
  | .unary op e => do foldNode (.unary op (← fold e))
  | .binary op a b => do
    let a ← fold a
    let b ← fold b
    foldNode (.binary op a b)
  | .both a b => do
    let a ← fold a
    let b ← fold b
    foldNode (.both a b)
  | .either a b => do
    let a ← fold a
    let b ← fold b
    foldNode (.either a b)
  | .concat items => do foldNode (.concat (← foldAll items))
  | .compare first rest => do
    let first ← fold first
    let rest ← foldChain rest
    foldNode (.compare first rest)
  | .conditional test yes no => do
    let test ← fold test
    let yes ← fold yes
    let no ← foldOption no
    foldNode (.conditional test yes no)
  | .attribute e name => do foldNode (.attribute (← fold e) name)
  | .item e key => do
    let e ← fold e
    let key ← fold key
    foldNode (.item e key)
  | .slice start stop step => do
    let start ← foldOption start
    let stop ← foldOption stop
    let step ← foldOption step
    pure (.slice start stop step)
  | .call f args => do
    let f ← fold f
    let args ← foldInputs args
    pure (.call f args)
  | .filter e name args => do
    let e ← fold e
    let args ← foldInputs args
    foldNode (.filter e name args)
  | .test e name args => do
    let e ← fold e
    let args ← foldInputs args
    foldNode (.test e name args)

def foldAll : List Expr → Compile (List Expr)
  | [] => pure []
  | e :: rest => do
    let e ← fold e
    return e :: (← foldAll rest)

def foldEntries : List (Expr × Expr) → Compile (List (Expr × Expr))
  | [] => pure []
  | (k, e) :: rest => do
    let k ← fold k
    let e ← fold e
    return (k, e) :: (← foldEntries rest)

def foldChain : List (CompareOperator × Expr) → Compile (List (CompareOperator × Expr))
  | [] => pure []
  | (op, e) :: rest => do
    let e ← fold e
    return (op, e) :: (← foldChain rest)

def foldNamed : List (String × Expr) → Compile (List (String × Expr))
  | [] => pure []
  | (name, e) :: rest => do
    let e ← fold e
    return (name, e) :: (← foldNamed rest)

def foldOption : Option Expr → Compile (Option Expr)
  | none => pure none
  | some e => do return some (← fold e)

def foldInputs : Inputs → Compile Inputs
  | .mk positional named rest namedRest => do
    let positional ← foldAll positional
    let named ← foldNamed named
    let rest ← foldOption rest
    let namedRest ← foldOption namedRest
    pure (.mk positional named rest namedRest)

end

mutual

/-- Every integer of a literal can be written. -/
def Literal.writable : Literal → Bool
  | .int i => writableInt i
  | .tuple items => allWritable items
  | .list items => allWritable items
  | .map entries => allEntriesWritable entries
  | _ => true

def allWritable : List Literal → Bool
  | [] => true
  | l :: rest => l.writable && allWritable rest

def allEntriesWritable : List (Literal × Literal) → Bool
  | [] => true
  | (k, v) :: rest => k.writable && v.writable && allEntriesWritable rest

end

mutual

/-- Checks the operations that an expression names. Inside a conditional unknown names are met
only when the branch is taken, so they are `tolerated`. -/
def checkNames (tolerated : Bool) : Expr → Compile Unit
  | .literal l => if l.writable then pure () else throw (.fault .badValue)
  | .name _ => pure ()
  | .tuple items => checkAll tolerated items
  | .list items => checkAll tolerated items
  | .map entries => checkEntries tolerated entries
  | .unary _ e => checkNames tolerated e
  | .binary _ a b => do
    checkNames tolerated a
    checkNames tolerated b
  | .both a b => do
    checkNames tolerated a
    checkNames tolerated b
  | .either a b => do
    checkNames tolerated a
    checkNames tolerated b
  | .concat items => checkAll tolerated items
  | .compare first rest => do
    checkNames tolerated first
    checkChain tolerated rest
  | .conditional test yes no => do
    checkNames true yes
    checkNames true test
    checkOption true no
  | .attribute e _ => checkNames tolerated e
  | .item e key => do
    checkNames tolerated e
    checkNames tolerated key
  | .slice start stop step => do
    checkOption tolerated start
    checkOption tolerated stop
    checkOption tolerated step
  | .call f args => do
    checkNames tolerated f
    checkInputs tolerated args
  | .filter e name args => do
    if !tolerated && !filterNames.contains name then throw (.noSuchFilter name)
    checkNames tolerated e
    checkInputs tolerated args
  | .test e name args => do
    if !tolerated && !testNames.contains name then throw (.noSuchTest name)
    checkNames tolerated e
    checkInputs tolerated args

def checkAll (tolerated : Bool) : List Expr → Compile Unit
  | [] => pure ()
  | e :: rest => do
    checkNames tolerated e
    checkAll tolerated rest

def checkEntries (tolerated : Bool) : List (Expr × Expr) → Compile Unit
  | [] => pure ()
  | (k, e) :: rest => do
    checkNames tolerated k
    checkNames tolerated e
    checkEntries tolerated rest

def checkChain (tolerated : Bool) : List (CompareOperator × Expr) → Compile Unit
  | [] => pure ()
  | (_, e) :: rest => do
    checkNames tolerated e
    checkChain tolerated rest

def checkNamed (tolerated : Bool) : List (String × Expr) → Compile Unit
  | [] => pure ()
  | (_, e) :: rest => do
    checkNames tolerated e
    checkNamed tolerated rest

def checkOption (tolerated : Bool) : Option Expr → Compile Unit
  | none => pure ()
  | some e => checkNames tolerated e

def checkInputs (tolerated : Bool) : Inputs → Compile Unit
  | .mk positional named rest namedRest => do
    checkAll tolerated positional
    checkNamed tolerated named
    checkOption tolerated rest
    checkOption tolerated namedRest

end

/-- The named arguments of a call have different names, unless a reserved word is among them. -/
def namesAreFit (names : List String) : Bool :=
  names.any reservedWords.contains || (!hasRepeats names && !names.contains "__debug__")

mutual

/-- Whether an expression has a form that can be compiled: slices stand alone between brackets,
and no argument is named twice. -/
def wellFormed : Expr → Bool
  | .literal _ => true
  | .name _ => true
  | .tuple items => wellFormedAll items
  | .list items => wellFormedAll items
  | .map entries => wellFormedEntries entries
  | .unary _ e => wellFormed e
  | .binary _ a b => wellFormed a && wellFormed b
  | .both a b => wellFormed a && wellFormed b
  | .either a b => wellFormed a && wellFormed b
  | .concat items => wellFormedAll items
  | .compare first rest => wellFormed first && wellFormedChain rest
  | .conditional test yes no => wellFormed test && wellFormed yes && wellFormedOption no
  | .attribute e _ => wellFormed e
  | .item e (.slice start stop step) =>
    wellFormed e && wellFormedOption start && wellFormedOption stop && wellFormedOption step
  | .item e key => wellFormed e && wellFormed key
  | .slice _ _ _ => false
  | .call f args => wellFormed f && wellFormedInputs args
  | .filter e _ args => wellFormed e && wellFormedInputs args
  | .test e _ args => wellFormed e && wellFormedInputs args

def wellFormedAll : List Expr → Bool
  | [] => true
  | e :: rest => wellFormed e && wellFormedAll rest

def wellFormedEntries : List (Expr × Expr) → Bool
  | [] => true
  | (k, e) :: rest => wellFormed k && wellFormed e && wellFormedEntries rest

def wellFormedChain : List (CompareOperator × Expr) → Bool
  | [] => true
  | (_, e) :: rest => wellFormed e && wellFormedChain rest

def wellFormedNamed : List (String × Expr) → Bool
  | [] => true
  | (_, e) :: rest => wellFormed e && wellFormedNamed rest

def wellFormedOption : Option Expr → Bool
  | none => true
  | some e => wellFormed e

def wellFormedInputs : Inputs → Bool
  | .mk positional named rest namedRest =>
    namesAreFit (named.map (·.1)) && wellFormedAll positional && wellFormedNamed named
      && wellFormedOption rest && wellFormedOption namedRest

end

mutual

/-- Folds the operations of an expression. Displays stay displays, since they are made anew at
each evaluation anyway, but their parts are folded. -/
def optimize : Expr → Compile Expr
  | .literal l => pure (.literal l)
  | .name s => pure (.name s)
  | .tuple items => do return .tuple (← optimizeAll items)
  | .list items => do return .list (← optimizeAll items)
  | .map entries => do return .map (← optimizeEntries entries)
  | e => fold e

def optimizeAll : List Expr → Compile (List Expr)
  | [] => pure []
  | e :: rest => do
    let e ← optimize e
    return e :: (← optimizeAll rest)

def optimizeEntries : List (Expr × Expr) → Compile (List (Expr × Expr))
  | [] => pure []
  | (k, e) :: rest => do
    let k ← optimize k
    let e ← optimize e
    return (k, e) :: (← optimizeEntries rest)

end

structure Program where
  body : Expr

/-- Compiles the text of an expression. The tree must not be too high to be folded, nor the code
for it be nested too deeply. -/
def Program.compile (s : String) : Compile Program := do
  let read ← parse s
  if heightLimit < read.height then throw (.fault .tooDeep)
  let e ← optimize read
  checkNames false e
  if wellFormed e && e.brackets ≤ bracketLimit then return ⟨e⟩ else throw (.fault .invalidForm)

end ClusterDiscovery.Expression
