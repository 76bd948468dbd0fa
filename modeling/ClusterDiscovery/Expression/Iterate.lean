import ClusterDiscovery.Expression.Members
import ClusterDiscovery.Text.Pieces

/-! # Going through values

Which values can be gone through, how elements are drawn, and whether a value is among them.
Drawing from a lazy sequence may call any operation of the language, so the operations take an
engine that supplies those calls. -/

namespace ClusterDiscovery.Expression

/-- The operations of the language that other operations call back. -/
structure Engine where
  /-- Draws an element from the iterator at a place of the store. -/
  next : ObjectId → Run (Option Value)
  filter : String → Value → Arguments → Run Value
  test : String → Value → Arguments → Run Value
  call : Value → Arguments → Run Value

/-- The elements of a value that is gone through without computing anything. -/
def presentItems? (store : Store) (v : Value) : Option (List Value) :=
  match v with
  | .text s => some (s.toList.map fun c => .text (String.singleton c))
  | .markup s => some (s.toList.map fun c => .text (String.singleton c))
  | .bytes b => some (b.map fun x => .int x.toNat)
  | .tuple items => some items
  | .group key members => some [key, members]
  | .range start stop step => some (rangeItems start stop step)
  | .undefined _ => some []
  | .view kind id => some (store.viewItems kind id)
  | .ref id => match store[id]? with
    | some (.list items) => some items
    | some (.map entries) => some (entries.map (·.1))
    | some (.set items) => some items
    | _ => none
  | _ => none

def iteratorPlace? (store : Store) (v : Value) : Option ObjectId :=
  match v with
  | .ref id => match store[id]? with
    | some (.iterator ..) | some (.generator _) => some id
    | _ => none
  | _ => none

def isIterable (store : Store) (v : Value) : Bool :=
  (presentItems? store v).isSome || (iteratorPlace? store v).isSome

def iterate (v : Value) : Run ObjectId := do
  let store ← get
  match presentItems? store v with
  | some items =>
    match ← Run.alloc (.iterator "iterator" items) with
    | .ref id => return id
    | _ => throw .wrongType
  | none =>
    match iteratorPlace? store v with
    | some id => return id
    | none => throw .wrongType

def drain (next : ObjectId → Run (Option Value)) : Nat → ObjectId → Run (List Value)
  | 0, _ => throw .tooDeep
  | fuel + 1, id => do
    match ← next id with
    | some v => return v :: (← drain next fuel id)
    | none => return []

def itemsOf (e : Engine) (v : Value) : Run (List Value) := do
  let store ← get
  match presentItems? store v with
  | some items => return items
  | none =>
    match iteratorPlace? store v with
    | some id => drain e.next drawLimit id
    | none => throw .wrongType

/-- Draws until an element equals the value. -/
def drawUntil (e : Engine) (v : Value) (id : ObjectId) : Nat → Run Bool
  | 0 => throw .tooDeep
  | fuel + 1 => do
    match ← e.next id with
    | none => return false
    | some w =>
      if ← lift (equal (← get) w v) then return true else drawUntil e v id fuel

/-- Whether `v` is in `whole`: a part of a text, a key of a mapping, an element otherwise. -/
def isIn (e : Engine) (v whole : Value) : Run Bool := do
  let store ← get
  match whole.text? with
  | some s =>
    match v.text? with
    | some part => return (Text.find? part.toList s.toList).isSome
    | none => throw .wrongType
  | none =>
    match whole with
    | .view .keys id => return (← lift (lookup? store (store.mapAt id) v)).isSome
    | whole =>
      match store.map? whole with
      | some entries => return (← lift (lookup? store entries v)).isSome
      | none =>
        match presentItems? store whole with
        | some items => lift (anyOf (fun w => equal store w v) items)
        | none =>
          match iteratorPlace? store whole with
          | some id => drawUntil e v id drawLimit
          | none => throw .wrongType

/-- Elements in the order of their keys, as a binary insertion finds their places. Equal keys keep
their order. -/
def insertSorted {α : Type} (before : α → α → Except Fault Bool) (x : α) (sorted : Array α) :
    Except Fault (Array α) :=
  let rec place : Nat → Nat → Nat → Except Fault Nat
    | 0, low, _ => pure low
    | fuel + 1, low, high =>
      if low < high then
        let middle := low + (high - low) / 2
        match sorted[middle]? with
        | none => pure low
        | some y => do
          if ← before x y then place fuel low middle else place fuel (middle + 1) high
      else pure low
  do
    let i ← place (sorted.size + 1) 0 sorted.size
    return (sorted.toList.take i ++ x :: sorted.toList.drop i).toArray

def insertAll {α : Type} (before : α → α → Except Fault Bool) :
    List α → Array α → Except Fault (Array α)
  | [], sorted => pure sorted
  | x :: rest, sorted => do insertAll before rest (← insertSorted before x sorted)

/-- The longest strictly descending start of a list, reversed, or else its longest start without
a descent; and the rest. -/
def firstRun {α : Type} (before : α → α → Except Fault Bool) :
    List α → Except Fault (List α × List α)
  | [] => pure ([], [])
  | [x] => pure ([x], [])
  | x :: y :: rest => do
    let descending ← before y x
    let rec extend (run : List α) (last : α) : List α → Except Fault (List α × List α)
      | [] => pure (run, [])
      | z :: rest => do
        if (← before z last) == descending then extend (z :: run) z rest
        else pure (run, z :: rest)
    let (run, rest) ← extend [y, x] y rest
    return (if descending then run else run.reverse, rest)

/-- A stable sort that asks only whether one element comes before another. -/
def sortBy {α : Type} (before : α → α → Except Fault Bool) (items : List α) :
    Except Fault (List α) := do
  let (run, rest) ← firstRun before items
  return (← insertAll before rest run.toArray).toList

/-- Elements sorted by their keys. Descending order keeps equal keys in their order, too. -/
def sortKeyed (store : Store) (descending : Bool) (items : List (Value × Value)) :
    Except Fault (List Value) := do
  let before (x y : Value × Value) : Except Fault Bool := ordered store .lt x.1 y.1
  let items := if descending then items.reverse else items
  let sorted ← sortBy before items
  let sorted := if descending then sorted.reverse else sorted
  return sorted.map (·.2)

end ClusterDiscovery.Expression
