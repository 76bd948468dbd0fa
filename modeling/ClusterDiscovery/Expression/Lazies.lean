import ClusterDiscovery.Expression.NumberFilters
import ClusterDiscovery.Expression.SequenceFilters
import ClusterDiscovery.Expression.Tests
import ClusterDiscovery.Expression.TextFilters

/-! # Drawing from lazy sequences

How the next element of a lazy sequence is found. A sequence looks at its source and its
arguments when the first element is drawn. -/

namespace ClusterDiscovery.Expression

open ClusterDiscovery.Text

/-- The message for a filter or test, chosen by a value, that does not exist. -/
def unknownMessage (store : Store) (kind : String) (name : Value) : Except Fault String := do
  let base := "No " ++ kind ++ " named " ++ (← quotedText store name) ++ "."
  match name with
  | .undefined why =>
    return base ++ " (" ++ why.message ++ "; did you forget to quote the callable name?)"
  | _ => return base

def applyNamed (kind : String) (names : List String)
    (apply : String → Value → Arguments → Run Value) (name v : Value) (args : Arguments) :
    Run Value := do
  let store ← get
  if !hashable store name then throw .wrongType
  match name.text? with
  | some s =>
    if names.contains s then apply s v args
    else throw (.unknownOperation (← lift (unknownMessage store kind name)))
  | none => throw (.unknownOperation (← lift (unknownMessage store kind name)))

def Transform.apply (e : Engine) (t : Transform) (v : Value) : Run Value :=
  match t with
  | .follow path replacement => followSteps replacement path v
  | .filter name args => applyNamed "filter" filterNames e.filter name v args

/-- What the arguments of a mapping filter ask for: a path, or a filter with its arguments. -/
def Transform.ofArguments (args : Arguments) : Except Fault Transform :=
  match args.positional with
  | name :: rest => pure (.filter name ⟨rest, args.named⟩)
  | [] =>
    match args.named.find? fun entry => entry.1 == "attribute" with
    | none => throw (.badFilterArgument "map requires a filter argument")
    | some (_, path) =>
      match args.named.find? fun entry => entry.1 != "attribute" && entry.1 != "default" with
      | some (name, _) =>
        throw (.badFilterArgument ("Unexpected keyword argument " ++ quoted name))
      | none => do
        let replacement := (args.named.find? fun entry => entry.1 == "default").map (·.2)
        return .follow (← pathOf path) replacement

/-- What the arguments of a choosing filter ask for: the path to the part that is tested, and the
test. -/
def Selector.ofArguments (byAttribute : Bool) (args : Arguments) :
    Except Fault (List Value × Selector) := do
  let (path, rest) ←
    if byAttribute then
      match args.positional with
      | [] => throw (.badFilterArgument "Missing parameter for attribute name")
      | first :: rest => pure (← pathOf first, rest)
    else pure ([], args.positional)
  match rest with
  | [] => return (path, .truth)
  | name :: rest => return (path, .test name ⟨rest, args.named⟩)

def Selector.accepts (e : Engine) (s : Selector) (v : Value) : Run Bool := do
  match s with
  | .truth => return truthy (← get) v
  | .test name args =>
    let answer ← applyNamed "test" testNames e.test name v args
    return truthy (← get) answer

/-- All slices of a sequence: equal parts, of which the first ones take one element more where
the division leaves a rest. The others are filled up. -/
def slices (items : List Value) (count : Nat) (fill : Value) : List (List Value) :=
  let size := items.length / count
  let extra := items.length % count
  (List.range count).map fun i =>
    let start := i * size + min i extra
    let stop := (i + 1) * size + min (i + 1) extra
    let part := (items.take stop).drop start
    match fill with
    | .null => part
    | fill => if i ≥ extra then part ++ [fill] else part

/-- Turns a sequence that has not been drawn from into one that has. -/
def startLazy (e : Engine) (state : Lazy) : Run Lazy := do
  match state with
  | .toMap source args =>
    if !truthy (← get) source then return .drawn []
    let transform ← lift (Transform.ofArguments args)
    return .mapped transform (← iterate source)
  | .toSelect source args keep byAttribute =>
    if !truthy (← get) source then return .drawn []
    let (path, selector) ← lift (Selector.ofArguments byAttribute args)
    return .selected path selector keep (← iterate source)
  | .toBatch source size fill => return .batched size fill [] (← iterate source)
  | .toSlice source count fill =>
    let items ← itemsOf e source
    let size : Value := .int items.length
    let _ ← numeric .floorDiv size count
    let _ ← numeric .rem size count
    let count ← lift (intArgument count)
    if count ≤ 0 then return .drawn []
    return .drawn (← (slices items count.toNat fill).mapM Run.allocList)
  | .toUnique source caseSensitive path =>
    return .distinct (← lift (pathOf path)) caseSensitive [] (← iterate source)
  | .toItems source =>
    match source with
    | .undefined _ => return .drawn []
    | source =>
      match (← get).map? source with
      | some entries => return .drawn (entries.map fun (k, v) => .tuple [k, v])
      | none => throw .wrongType
  | state => return state

/-- Draws until an element is accepted. -/
def drawSelected (e : Engine) (path : List Value) (selector : Selector) (keep : Bool)
    (source : ObjectId) : Nat → Run (Option Value)
  | 0 => throw .tooDeep
  | fuel + 1 => do
    match ← e.next source with
    | none => return none
    | some x =>
      let part ← followSteps none path x
      if (← selector.accepts e part) == keep then return some x
      else drawSelected e path selector keep source fuel

/-- Draws until an element has a key that was not seen; gives the element and its key. -/
def drawDistinct (e : Engine) (path : List Value) (caseSensitive : Bool) (seen : List Value)
    (source : ObjectId) : Nat → Run (Option (Value × Value))
  | 0 => throw .tooDeep
  | fuel + 1 => do
    match ← e.next source with
    | none => return none
    | some x =>
      let key ← keyOf path none caseSensitive x
      let store ← get
      if !hashable store key then throw .wrongType
      if ← lift (anyOf (fun k => equal store k key) seen) then
        drawDistinct e path caseSensitive seen source fuel
      else return some (x, key)

/-- Draws until a batch is full. Gives the batch and the element that is left over, if any. -/
def drawBatch (e : Engine) (size : Value) (source : ObjectId) :
    Nat → List Value → Run (List Value × Option Value)
  | 0, _ => throw .tooDeep
  | fuel + 1, pending => do
    match ← e.next source with
    | none => return (pending, none)
    | some x =>
      if ← lift (equal (← get) (.int pending.length) size) then return (pending, some x)
      else drawBatch e size source fuel (pending ++ [x])

def filledBatch (size fill : Value) (pending : List Value) : Run (List Value) := do
  match fill with
  | .null => return pending
  | fill =>
    if ← lift (ordered (← get) .lt (.int pending.length) size) then
      let missing ← lift (intArgument (← numeric .sub size (.int pending.length)))
      return pending ++ List.replicate missing.toNat fill
    else return pending

/-- The next element of a sequence that has been started, and the state after it. -/
def stepLazy (e : Engine) (state : Lazy) : Run (Option Value × Lazy) := do
  match state with
  | .mapped transform source =>
    match ← e.next source with
    | none => return (none, .drawn [])
    | some x => return (some (← transform.apply e x), state)
  | .selected path selector keep source =>
    match ← drawSelected e path selector keep source drawLimit with
    | none => return (none, .drawn [])
    | some x => return (some x, state)
  | .distinct path caseSensitive seen source =>
    match ← drawDistinct e path caseSensitive seen source drawLimit with
    | none => return (none, .drawn [])
    | some (x, key) => return (some x, .distinct path caseSensitive (key :: seen) source)
  | .batched size fill pending source =>
    let (batch, left) ← drawBatch e size source drawLimit pending
    match left with
    | some x => return (some (← Run.allocList batch), .batched size fill [x] source)
    | none =>
      if batch.isEmpty then return (none, .drawn [])
      return (some (← Run.allocList (← filledBatch size fill batch)), .drawn [])
  | .drawn (x :: rest) => return (some x, .drawn rest)
  | _ => return (none, .drawn [])

/-- Draws from the iterator at a place of the store. A sequence whose drawing fails is spent. -/
def drawFrom (e : Engine) (id : ObjectId) : Run (Option Value) := do
  match ← Run.read id with
  | .iterator type items =>
    match items with
    | [] => return none
    | x :: rest =>
      Run.write id (.iterator type rest)
      return some x
  | .generator state =>
    Run.write id (.generator (.drawn []))
    let started ← startLazy e state
    let (x, state) ← stepLazy e started
    Run.write id (.generator state)
    return x
  | _ => throw .wrongType

def runFilter (e : Engine) (name : String) (v : Value) (args : Arguments) : Run Value :=
  match textFilter? e name v args with
  | some run => run
  | none =>
    match numberFilter? name v args with
    | some run => run
    | none => (sequenceFilter? e name v args).getD (throw .badState)

def runTest (e : Engine) (name : String) (v : Value) (args : Arguments) : Run Value :=
  (runTest? e name v args).getD (throw .badState)

/-- Operations that may call one another to a given depth. -/
def Engine.ofDepth : Nat → Engine
  | 0 => {
      next := fun _ => throw .tooDeep
      filter := fun _ _ _ => throw .tooDeep
      test := fun _ _ _ => throw .tooDeep
      call := fun _ _ => throw .tooDeep }
  | depth + 1 => {
      next := drawFrom (ofDepth depth)
      filter := runFilter (ofDepth depth)
      test := runTest (ofDepth depth)
      call := callValue (ofDepth depth) }

/-- How deep operations may call one another. -/
def callDepth : Nat := 200

end ClusterDiscovery.Expression
