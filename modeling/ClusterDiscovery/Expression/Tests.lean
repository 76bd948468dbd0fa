import ClusterDiscovery.Expression.Calls

/-! # Tests

The questions that `is` asks of a value. Comparison operators are tests, too, with the other
operand as argument. -/

namespace ClusterDiscovery.Expression

open ClusterDiscovery.Number ClusterDiscovery.Text

def filterNames : List String :=
  ["abs", "attr", "batch", "capitalize", "center", "count", "d", "default", "dictsort", "e",
    "escape", "filesizeformat", "first", "float", "forceescape", "format", "groupby", "indent",
    "int", "items", "join", "last", "length", "list", "lower", "map", "max", "min", "pprint",
    "random", "reject", "rejectattr", "replace", "reverse", "round", "safe", "select",
    "selectattr", "slice", "sort", "string", "striptags", "sum", "title", "tojson", "trim",
    "truncate", "unique", "upper", "urlencode", "urlize", "wordcount", "wordwrap", "xmlattr"]

def testNames : List String :=
  ["!=", "<", "<=", "==", ">", ">=", "boolean", "callable", "defined", "divisibleby", "eq",
    "equalto", "escaped", "even", "false", "filter", "float", "ge", "greaterthan", "gt", "in",
    "integer", "iterable", "le", "lessthan", "lower", "lt", "mapping", "ne", "none", "number",
    "odd", "sameas", "sequence", "string", "test", "true", "undefined", "upper"]

/-- Whether two values are one and the same. Objects are compared by place; small integers, short
texts and the singletons exist once, other values are made anew each time. -/
def sameValue (a b : Value) : Bool :=
  match a, b with
  | .null, .null => true
  | .bool x, .bool y => x == y
  | .int i, .int j => i == j && -5 ≤ i && i ≤ 256
  | .text s, .text t => s == t && s.length ≤ 1 && s.toList.all fun c => c.toNat < 0x100
  | .tuple [], .tuple [] => true
  | .ref i, .ref j => i == j
  | .function f, .function g => f == g
  | .undefined _, .undefined _ => false
  | _, _ => false

def isSequence (store : Store) (v : Value) : Except Fault Bool :=
  match v with
  | .text _ | .markup _ | .bytes _ | .tuple _ | .group .. | .range .. => pure true
  | .undefined _ => pure true
  | .ref id => match store[id]? with
    | some (.list _) | some (.map _) => pure true
    | _ => pure false
  | _ => pure false

/-- The remainder of a value by an integer equals another. -/
def remainderIs (v by_ : Value) (wanted : Int) : Run Value := do
  let r ← rem v by_
  return .bool (← lift (equal (← get) r (.int wanted)))

def nameIsKnown (store : Store) (names : List String) (v : Value) : Except Fault Bool :=
  if !hashable store v then throw .wrongType
  else pure ((v.text?.map names.contains).getD false)

def runTest? (e : Engine) (name : String) (v : Value) (args : Arguments) : Option (Run Value) :=
  let bare (answer : Store → Except Fault Bool) : Run Value := do
    let _ ← lift ((⟨["value"], []⟩ : Signature).bind ⟨v :: args.positional, args.named⟩)
    return .bool (← lift (answer (← get)))
  let with_ (parameter : String) (answer : Value → Run Value) : Run Value := do
    let [_, some other] ← lift
      ((⟨["value", parameter], []⟩ : Signature).bind ⟨v :: args.positional, args.named⟩)
      | throw .wrongType
    answer other
  let operator (answer : Store → Value → Except Fault Bool) : Run Value := do
    let [some other] ← lift (args.byPosition 1 1) | throw .wrongType
    return .bool (← lift (answer (← get) other))
  let order (o : Order) : Run Value := operator fun store other => ordered store o v other
  let caseOf (test : List Char → Bool) : Run Value :=
    bare fun store => return test (← plainText store v).toList
  match name with
  | "odd" => some (do
      let _ ← lift ((⟨["value"], []⟩ : Signature).bind ⟨v :: args.positional, args.named⟩)
      remainderIs v (.int 2) 1)
  | "even" => some (do
      let _ ← lift ((⟨["value"], []⟩ : Signature).bind ⟨v :: args.positional, args.named⟩)
      remainderIs v (.int 2) 0)
  | "divisibleby" => some (with_ "num" fun n => remainderIs v n 0)
  | "defined" => some (bare fun _ => pure (!v.isUndefined))
  | "undefined" => some (bare fun _ => pure v.isUndefined)
  | "filter" => some (bare fun store => nameIsKnown store filterNames v)
  | "test" => some (bare fun store => nameIsKnown store testNames v)
  | "none" => some (bare fun _ => pure (match v with | .null => true | _ => false))
  | "boolean" => some (bare fun _ => pure (match v with | .bool _ => true | _ => false))
  | "true" => some (bare fun _ => pure (match v with | .bool true => true | _ => false))
  | "false" => some (bare fun _ => pure (match v with | .bool false => true | _ => false))
  | "integer" => some (bare fun _ => pure (match v with | .int _ => true | _ => false))
  | "float" => some (bare fun _ => pure (match v with | .float _ => true | _ => false))
  | "number" => some (bare fun _ => pure (match v with
      | .int _ | .bool _ | .float _ | .complex .. => true
      | _ => false))
  | "string" => some (bare fun _ => pure v.text?.isSome)
  | "mapping" => some (bare fun store => pure (store.map? v).isSome)
  | "sequence" => some (bare fun store => isSequence store v)
  | "iterable" => some (bare fun store => pure (isIterable store v))
  | "callable" => some (do
      let _ ← lift (args.byPosition 0 0)
      return .bool (isCallable (← get) v))
  | "escaped" => some (bare fun _ => pure (match v with | .markup _ => true | _ => false))
  | "lower" => some (caseOf isLowerText)
  | "upper" => some (caseOf isUpperText)
  | "sameas" => some (with_ "other" fun other => return .bool (sameValue v other))
  | "in" => some (with_ "seq" fun whole => return .bool (← isIn e v whole))
  | "==" | "eq" | "equalto" => some (operator fun store other => equal store v other)
  | "!=" | "ne" => some (operator fun store other => return !(← equal store v other))
  | ">" | "gt" | "greaterthan" => some (order .gt)
  | ">=" | "ge" => some (order .ge)
  | "<" | "lt" | "lessthan" => some (order .lt)
  | "<=" | "le" => some (order .le)
  | _ => none

end ClusterDiscovery.Expression
