import ClusterDiscovery.Expression.Calls
import ClusterDiscovery.Expression.Paths

/-! # Filters on sequences and mappings

First and last elements, sorting, grouping, extremes and sums, and the lazy filters that choose,
change, batch or slice elements. A lazy filter only records what it will do. -/

namespace ClusterDiscovery.Expression

open ClusterDiscovery.Text

/-- The arguments of a filter with the value in front, matched with its parameters. -/
def filterArguments (required optional : List String) (v : Value) (args : Arguments) :
    Except Fault (List (Option Value)) :=
  (⟨required, optional⟩ : Signature).bind ⟨v :: args.positional, args.named⟩

def pathArgument : Option Value → Except Fault (List Value)
  | none => pure []
  | some v => pathOf v

/-- The elements of a value backwards, with the type of the iterator that gives them. -/
def backwards? (store : Store) (v : Value) : Option (String × List Value) :=
  let items := ((presentItems? store v).getD []).reverse
  match v with
  | .text _ | .markup _ | .tuple _ | .group .. | .bytes _ | .undefined _ =>
    some ("reversed", items)
  | .range .. => some ("range_iterator", items)
  | .view .keys _ => some ("dict_reversekeyiterator", items)
  | .view .values _ => some ("dict_reversevalueiterator", items)
  | .view .items _ => some ("dict_reverseitemiterator", items)
  | .ref id => match store[id]? with
    | some (.list _) => some ("list_reverseiterator", items)
    | some (.map _) => some ("dict_reversekeyiterator", items)
    | _ => none
  | _ => none

def firstOf (e : Engine) (v : Value) : Run Value := do
  match ← e.next (← iterate v) with
  | some x => return x
  | none => return .undefined ⟨"No first item, sequence was empty.", false⟩

def lastOf (v : Value) : Run Value := do
  match backwards? (← get) v with
  | none => throw .wrongType
  | some (_, x :: _) => return x
  | some (_, []) => return .undefined ⟨"No last item, sequence was empty.", false⟩

def reversed (e : Engine) (v : Value) : Run Value := do
  match v with
  | .text s => return .text (String.ofList s.toList.reverse)
  | .markup s => return .markup (String.ofList s.toList.reverse)
  | v =>
    match backwards? (← get) v with
    | some (type, items) => Run.alloc (.iterator type items)
    | none =>
      let items ← tryCatch (itemsOf e v) fun f =>
        if f == .wrongType then throw (.badFilterArgument "argument must be iterable") else throw f
      Run.allocList items.reverse

/-- The greatest or least element by a key. Of equal ones the first is taken. -/
def extreme (better : Order) (e : Engine) (path : List Value) (caseSensitive : Bool) (v : Value) :
    Run Value := do
  let id ← iterate v
  match ← e.next id with
  | none => return .undefined ⟨"No aggregated item, sequence was empty.", false⟩
  | some first =>
    let firstKey ← keyOf path none caseSensitive first
    let rec go : Nat → Value → Value → Run Value
      | 0, _, _ => throw .tooDeep
      | fuel + 1, best, bestKey => do
        match ← e.next id with
        | none => return best
        | some x =>
          let key ← keyOf path none caseSensitive x
          if ← lift (ordered (← get) better key bestKey) then go fuel x key
          else go fuel best bestKey
    go drawLimit first firstKey

def extremeFilter (better : Order) (e : Engine) (args : Arguments) (v : Value) : Run Value := do
  let [_, caseSensitive, path] ← lift
    (filterArguments ["value"] ["case_sensitive", "attribute"] v args) | throw .wrongType
  let path ← lift (pathArgument path)
  extreme better e path (flagOf (← get) false caseSensitive) v

/-- The elements added to a start, which may be no text. -/
def sumFilter (e : Engine) (args : Arguments) (v : Value) : Run Value := do
  let [_, path, start] ← lift (filterArguments ["iterable"] ["attribute", "start"] v args)
    | throw .wrongType
  let path ← lift (pathArgument path)
  let id ← iterate v
  let start := start.getD (.int 0)
  match start with
  | .text _ | .markup _ | .bytes _ => throw .wrongType
  | start =>
    let rec go : Nat → Value → Run Value
      | 0, _ => throw .tooDeep
      | fuel + 1, total => do
        match ← e.next id with
        | none => return total
        | some x => go fuel (← add total (← followSteps none path x))
    go drawLimit start

def sortFilter (e : Engine) (args : Arguments) (v : Value) : Run Value := do
  let [_, descending, caseSensitive, path] ← lift
    (filterArguments ["value"] ["reverse", "case_sensitive", "attribute"] v args)
    | throw .wrongType
  let paths ← lift (pathsOf (path.getD .null))
  let caseSensitive := flagOf (← get) false caseSensitive
  let items ← itemsOf e v
  let descending := (← lift (optionalInt 0 descending)) != 0
  let keyed ← items.mapM fun x => do
    let keys ← paths.mapM fun path => keyOf path none caseSensitive x
    return (.tuple keys, x)
  Run.allocList (← lift (sortKeyed (← get) descending keyed))

/-- The entries of a mapping, as asked for by a filter. -/
def entriesOfMap (v : Value) : Run (List (Value × Value)) := do
  match v with
  | .undefined why => throw why.fault
  | v =>
    match (← get).map? v with
    | some entries => return entries
    | none => throw .noMember

def dictsortFilter (args : Arguments) (v : Value) : Run Value := do
  let [_, caseSensitive, by_, descending] ← lift
    (filterArguments ["value"] ["case_sensitive", "by", "reverse"] v args) | throw .wrongType
  let byKey ← match (by_.getD (.text "key")).text? with
    | some "key" => pure true
    | some "value" => pure false
    | _ => throw (.badFilterArgument "You can only sort by either \"key\" or \"value\"")
  let caseSensitive := flagOf (← get) false caseSensitive
  let entries ← entriesOfMap v
  let descending := (← lift (optionalInt 0 descending)) != 0
  let keyed := entries.map fun (k, w) =>
    let key := if byKey then k else w
    (if caseSensitive then key else withoutCase key, Value.tuple [k, w])
  Run.allocList (← lift (sortKeyed (← get) descending keyed))

/-- Neighbours with equal keys, together. -/
def runsOf (store : Store) : List (Value × Value) → Except Fault (List (Value × List Value))
  | [] => pure []
  | (k, v) :: rest => do
    match ← runsOf store rest with
    | (k', vs) :: groups =>
      if ← equal store k k' then return (k, v :: vs) :: groups
      else return (k, [v]) :: (k', vs) :: groups
    | [] => return [(k, [v])]

def groupFilter (e : Engine) (args : Arguments) (v : Value) : Run Value := do
  let [_, some path, replacement, caseSensitive] ← lift
    (filterArguments ["value", "attribute"] ["default", "case_sensitive"] v args)
    | throw .wrongType
  let path ← lift (pathOf path)
  let caseSensitive := flagOf (← get) false caseSensitive
  let items ← itemsOf e v
  let keyed ← items.mapM fun x => return (← keyOf path replacement caseSensitive x, x)
  let sorted ← lift (sortKeyed (← get) false (keyed.map fun (k, x) => (k, .tuple [k, x])))
  let pairs := sorted.filterMap fun p => match p with
    | .tuple [k, x] => some (k, x)
    | _ => none
  let groups ← lift (runsOf (← get) pairs)
  let groups ← groups.mapM fun (k, members) => do
    let shown ← match caseSensitive, members with
      | false, x :: _ => followSteps replacement path x
      | _, _ => pure k
    return Value.group shown (← Run.allocList members)
  Run.allocList groups

/-- A member of a value by name. What is only an element does not count. -/
def attrFilter (args : Arguments) (v : Value) : Run Value := do
  let [_, some name] ← lift (filterArguments ["obj", "name"] [] v args) | throw .wrongType
  match name.text? with
  | none => throw .wrongType
  | some s =>
    match readMember? (← get) v s with
    | some found => return found
    | none =>
      match v with
      | .undefined why =>
        if s.startsWith "__" && s.endsWith "__" then undefinedMember v name else throw why.fault
      | v => undefinedMember v name

def defaultFilter (args : Arguments) (v : Value) : Run Value := do
  let [_, default, orFalse] ← lift
    (filterArguments ["value"] ["default_value", "boolean"] v args) | throw .wrongType
  let store ← get
  if v.isUndefined || (flagOf store false orFalse && !truthy store v) then
    return default.getD (.text "")
  else return v

def lazily (state : Lazy) : Run Value := Run.alloc (.generator state)

/-- A lazy filter takes any arguments, but none by the names of its own first parameters. -/
def lazyArguments (args : Arguments) : Except Fault Unit :=
  if args.named.any fun entry => entry.1 == "context" || entry.1 == "value" then throw .wrongType
  else pure ()

def sequenceFilter? (e : Engine) (name : String) (v : Value) (args : Arguments) :
    Option (Run Value) :=
  let bare (parameter : String) (run : Run Value) : Run Value := do
    let _ ← lift (filterArguments [parameter] [] v args)
    run
  let choosing (keep byAttribute : Bool) : Run Value := do
    lift (lazyArguments args)
    lazily (.toSelect v args keep byAttribute)
  let parted (required : String) (make : Value → Value → Lazy) : Run Value := do
    let [_, some size, fill] ← lift (filterArguments ["value", required] ["fill_with"] v args)
      | throw .wrongType
    lazily (make size (fill.getD .null))
  match name with
  | "attr" => some (attrFilter args v)
  | "default" | "d" => some (defaultFilter args v)
  | "first" => some (bare "seq" (firstOf e v))
  | "last" => some (bare "seq" (lastOf v))
  | "list" => some (bare "value" do Run.allocList (← itemsOf e v))
  | "length" | "count" => some do
      let _ ← lift (args.byPosition 0 0)
      return .int (← lift (length (← get) v))
  | "reverse" => some (bare "value" (reversed e v))
  | "max" => some (extremeFilter .gt e args v)
  | "min" => some (extremeFilter .lt e args v)
  | "sum" => some (sumFilter e args v)
  | "sort" => some (sortFilter e args v)
  | "dictsort" => some (dictsortFilter args v)
  | "groupby" => some (groupFilter e args v)
  | "items" => some (bare "value" (lazily (.toItems v)))
  | "batch" => some (parted "linecount" (.toBatch v))
  | "slice" => some (parted "slices" (.toSlice v))
  | "unique" => some do
      let [_, caseSensitive, path] ← lift
        (filterArguments ["value"] ["case_sensitive", "attribute"] v args) | throw .wrongType
      lazily (.toUnique v (flagOf (← get) false caseSensitive) (path.getD .null))
  | "map" => some do
      lift (lazyArguments args)
      lazily (.toMap v args)
  | "select" => some (choosing true false)
  | "reject" => some (choosing false false)
  | "selectattr" => some (choosing true true)
  | "rejectattr" => some (choosing false true)
  | _ => none

end ClusterDiscovery.Expression
