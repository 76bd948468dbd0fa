import ClusterDiscovery.Expression.Iterate
import ClusterDiscovery.Expression.Signature

/-! # Methods of lists, mappings and tuples

Methods that change a collection change the object in the store, so that every name of it sees the
change. -/

namespace ClusterDiscovery.Expression

def indexOf? (store : Store) (v : Value) : Nat → List Value → Except Fault (Option Nat)
  | _, [] => pure none
  | i, w :: rest => do
    if ← equal store w v then pure (some i) else indexOf? store v (i + 1) rest

def countEqual (store : Store) (v : Value) : List Value → Except Fault Nat
  | [] => pure 0
  | w :: rest => do
    let n ← countEqual store v rest
    return if ← equal store w v then n + 1 else n

/-- A search for a value between two positions. -/
def indexWithin (store : Store) (items : List Value) (args : Arguments) : Except Fault Value := do
  let [some v, start, stop] ← args.byPosition 1 3 | throw .wrongType
  let size : Int := items.length
  let fromEnd (i : Int) : Nat := (if i < 0 then max (i + size) 0 else i).toNat
  let first ← match start with
    | none => pure 0
    | some s => fromEnd <$> intArgument s
  let last ← match stop with
    | none => pure items.length
    | some s => fromEnd <$> intArgument s
  match ← indexOf? store v first ((items.take last).drop first) with
  | some i => return .int i
  | none => throw .badValue

def occurrences (store : Store) (items : List Value) (args : Arguments) : Except Fault Value := do
  let [some v] ← args.byPosition 1 1 | throw .wrongType
  return .int (← countEqual store v items)

/-- A position to insert at, cut off at both ends. -/
def insertionPoint (size : Nat) (i : Int) : Nat :=
  let i := if i < 0 then max (i + size) 0 else i
  min i.toNat size

def callListMethod (e : Engine) (id : ObjectId) (items : List Value) (name : String)
    (args : Arguments) : Run Value := do
  let store ← get
  let put (items : List Value) : Run Value := do
    Run.write id (.list items)
    return .null
  match name with
  | "append" =>
    let [some v] ← lift (args.byPosition 1 1) | throw .wrongType
    put (items ++ [v])
  | "extend" =>
    let [some more] ← lift (args.byPosition 1 1) | throw .wrongType
    let more ← itemsOf e more
    put (((← get).list? (.ref id)).getD items ++ more)
  | "insert" =>
    let [some i, some v] ← lift (args.byPosition 2 2) | throw .wrongType
    let i := insertionPoint items.length (← lift (intArgument i))
    put (items.take i ++ v :: items.drop i)
  | "remove" =>
    let [some v] ← lift (args.byPosition 1 1) | throw .wrongType
    match ← lift (indexOf? store v 0 items) with
    | some i => put (items.eraseIdx i)
    | none => throw .badValue
  | "pop" =>
    let [i] ← lift (args.byPosition 0 1) | throw .wrongType
    match position? items.length (← lift (optionalInt (-1) i)) with
    | none => throw .outOfRange
    | some i =>
      let v ← lift (elementAt items i)
      let _ ← put (items.eraseIdx i)
      return v
  | "clear" =>
    let _ ← lift (args.byPosition 0 0)
    put []
  | "copy" =>
    let _ ← lift (args.byPosition 0 0)
    Run.allocList items
  | "reverse" =>
    let _ ← lift (args.byPosition 0 0)
    put items.reverse
  | "index" => lift (indexWithin store items args)
  | "count" => lift (occurrences store items args)
  | "sort" =>
    if !args.positional.isEmpty then throw .wrongType
    let [key, descending] ← lift ((⟨[], ["key", "reverse"]⟩ : Signature).bind args)
      | throw .wrongType
    let descending := (← lift (optionalInt 0 descending)) != 0
    let keyed ← items.mapM fun v => do
      match key with
      | none => return (v, v)
      | some .null => return (v, v)
      | some f => return (← e.call f ⟨[v], []⟩, v)
    put (← lift (sortKeyed (← get) descending keyed))
  | _ => throw .wrongType

/-- The entry that one element of a sequence of pairs stands for. -/
def pairOf (e : Engine) (v : Value) : Run (Value × Value) := do
  match ← itemsOf e v with
  | [key, value] => return (key, value)
  | _ => throw .badValue

/-- The entries that a mapping or a sequence of pairs stands for. -/
def entriesOf (e : Engine) (v : Value) : Run (List (Value × Value)) := do
  match v, (← get).map? v with
  | .undefined why, _ => throw why.fault
  | _, some entries => return entries
  | _, none => (← itemsOf e v).mapM (pairOf e)

def putAll (store : Store) (entries more : List (Value × Value)) :
    Except Fault (List (Value × Value)) :=
  more.foldlM (fun acc (k, v) => putEntry store acc k v) entries

def namedEntries (args : Arguments) : List (Value × Value) :=
  args.named.map fun (name, v) => (.text name, v)

/-- The entries of a mapping built from at most one positional argument and named ones. -/
def gathered (e : Engine) (start : List (Value × Value)) (args : Arguments) :
    Run (List (Value × Value)) := do
  let more ← match args.positional with
    | [] => pure []
    | [v] => entriesOf e v
    | _ => throw .wrongType
  let store ← get
  lift (putAll store (← lift (putAll store start more)) (namedEntries args))

/-- A mapping from the elements of a sequence to one value. -/
def mapFromKeys (e : Engine) (args : Arguments) : Run Value := do
  let [some keys, value] ← lift (args.byPosition 1 2) | throw .wrongType
  let keys ← itemsOf e keys
  let entries ← lift (putAll (← get) [] (keys.map fun k => (k, value.getD .null)))
  Run.alloc (.map entries)

def callMapMethod (e : Engine) (id : ObjectId) (entries : List (Value × Value)) (name : String)
    (args : Arguments) : Run Value := do
  let store ← get
  let put (entries : List (Value × Value)) : Run Unit := Run.write id (.map entries)
  match name with
  | "get" =>
    let [some key, default] ← lift (args.byPosition 1 2) | throw .wrongType
    return (← lift (lookup? store entries key)).getD (default.getD .null)
  | "setdefault" =>
    let [some key, default] ← lift (args.byPosition 1 2) | throw .wrongType
    match ← lift (lookup? store entries key) with
    | some v => return v
    | none =>
      put (entries ++ [(key, default.getD .null)])
      return default.getD .null
  | "pop" =>
    let [some key, default] ← lift (args.byPosition 1 2) | throw .wrongType
    match ← lift (lookup? store entries key), default with
    | some v, _ =>
      put (← lift (dropEntry (fun k => equal store k key) entries))
      return v
    | none, some v => return v
    | none, none => throw .missingKey
  | "popitem" =>
    let _ ← lift (args.byPosition 0 0)
    match entries.getLast? with
    | none => throw .missingKey
    | some (k, v) =>
      put entries.dropLast
      return .tuple [k, v]
  | "update" =>
    let more ← match args.positional with
      | [] => pure []
      | [v] => entriesOf e v
      | _ => throw .wrongType
    let store ← get
    put (← lift (putAll store (← lift (putAll store (store.mapAt id) more)) (namedEntries args)))
    return .null
  | "keys" =>
    let _ ← lift (args.byPosition 0 0)
    return .view .keys id
  | "values" =>
    let _ ← lift (args.byPosition 0 0)
    return .view .values id
  | "items" =>
    let _ ← lift (args.byPosition 0 0)
    return .view .items id
  | "clear" =>
    let _ ← lift (args.byPosition 0 0)
    put []
    return .null
  | "copy" =>
    let _ ← lift (args.byPosition 0 0)
    Run.alloc (.map entries)
  | "fromkeys" => mapFromKeys e args
  | _ => throw .wrongType

/-- Calls a method of an arithmetic progression. Its elements are sought from the start. -/
def callRangeMethod (items : List Value) (name : String) (args : Arguments) : Run Value := do
  let _ ← lift (args.byPosition 1 1)
  match name with
  | "index" => lift (indexWithin (← get) items args)
  | "count" => lift (occurrences (← get) items args)
  | _ => throw .wrongType

def callSequenceMethod (items : List Value) (name : String) (args : Arguments) : Run Value := do
  let store ← get
  match name with
  | "index" => lift (indexWithin store items args)
  | "count" => lift (occurrences store items args)
  | _ => throw .wrongType

end ClusterDiscovery.Expression
