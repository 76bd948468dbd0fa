import ClusterDiscovery.Expression.Value
import ClusterDiscovery.Number.Binary64

/-! # Truth, equality and order of values

Numbers of all kinds compare by their exact value, texts by code point, sequences element by
element. Values of unlike kinds are unequal and have no order. -/

namespace ClusterDiscovery.Expression

open ClusterDiscovery.Number

/-- How deep values may be nested before an operation gives up. -/
def nestingLimit : Nat := 1000

/-- How many elements an operation draws from a lazy sequence before it gives up. -/
def drawLimit : Nat := 1000000

def rangeLength (start stop step : Int) : Nat :=
  if step > 0 then
    if start < stop then ((stop - start - 1) / step + 1).toNat else 0
  else if step < 0 then
    if stop < start then ((start - stop - 1) / (-step) + 1).toNat else 0
  else 0

def rangeItems (start stop step : Int) : List Value :=
  (List.range (rangeLength start stop step)).map fun (i : Nat) => .int (start + step * (i : Int))

namespace Store

def list? (store : Store) : Value → Option (List Value)
  | .ref id => match store[id]? with
    | some (.list items) => some items
    | _ => none
  | _ => none

def map? (store : Store) : Value → Option (List (Value × Value))
  | .ref id => match store[id]? with
    | some (.map entries) => some entries
    | _ => none
  | _ => none

def mapAt (store : Store) (id : ObjectId) : List (Value × Value) :=
  (store.map? (.ref id)).getD []

def viewItems (store : Store) (kind : ViewKind) (id : ObjectId) : List Value :=
  match kind with
  | .keys => (store.mapAt id).map (·.1)
  | .values => (store.mapAt id).map (·.2)
  | .items => (store.mapAt id).map fun (k, v) => .tuple [k, v]

/-- The members of a value that behaves like a set. -/
def set? (store : Store) : Value → Option (List Value)
  | .ref id => match store[id]? with
    | some (.set items) => some items
    | _ => none
  | .view .keys id => some (store.viewItems .keys id)
  | .view .items id => some (store.viewItems .items id)
  | _ => none

end Store

def Value.number? : Value → Option (Int ⊕ Float)
  | .int i => some (.inl i)
  | .bool b => some (.inl (if b then 1 else 0))
  | .float x => some (.inr x)
  | _ => none

def equalLists (equal : Value → Value → Except Fault Bool) :
    List Value → List Value → Except Fault Bool
  | [], [] => pure true
  | x :: xs, y :: ys => do
    if ← equal x y then equalLists equal xs ys else pure false
  | _, _ => pure false

def anyOf (test : Value → Except Fault Bool) : List Value → Except Fault Bool
  | [] => pure false
  | x :: xs => do if ← test x then pure true else anyOf test xs

def allOf (test : Value → Except Fault Bool) : List Value → Except Fault Bool
  | [] => pure true
  | x :: xs => do if ← test x then allOf test xs else pure false

def entryWith? (test : Value → Except Fault Bool) :
    List (Value × Value) → Except Fault (Option Value)
  | [] => pure none
  | (k, v) :: rest => do if ← test k then pure (some v) else entryWith? test rest

/-- Equal lengths, and every entry of one has an equal entry in the other. -/
def equalMaps (equal : Value → Value → Except Fault Bool) (xs ys : List (Value × Value)) :
    Except Fault Bool :=
  if xs.length != ys.length then pure false
  else
    let rec go : List (Value × Value) → Except Fault Bool
      | [] => pure true
      | (k, v) :: rest => do
        match ← entryWith? (equal k) ys with
        | some w => if ← equal v w then go rest else pure false
        | none => pure false
    go xs

def equalSets (equal : Value → Value → Except Fault Bool) (xs ys : List Value) :
    Except Fault Bool :=
  if xs.length != ys.length then pure false
  else allOf (fun x => anyOf (equal x) ys) xs

def equalTo : Nat → Store → Value → Value → Except Fault Bool
  | 0, _, _, _ => throw .tooDeep
  | depth + 1, store, a, b =>
    match a, b with
    | .null, .null => pure true
    | .undefined _, .undefined _ => pure true
    | .complex r i, .complex s j => pure (r == s && i == j)
    | .bytes s, .bytes t => pure (s == t)
    | .range a b c, .range x y z =>
      pure (rangeLength a b c == rangeLength x y z
        && (rangeLength a b c == 0 || (a == x && (rangeLength a b c == 1 || c == z))))
    | .function f, .function g => pure (f == g)
    | .unbound s f, .unbound t g => pure (s == t && f == g)
    | .environment, .environment => pure true
    | .method r f, .method s g =>
      if f != g then pure false
      else match r, s with
        | .ref i, .ref j => pure (i == j)
        | .ref _, _ => pure false
        | _, .ref _ => pure false
        | r, s => equalTo depth store r s
    | a, b =>
      match a.number?, b.number?, a, b with
      | some x, some y, _, _ => pure (compareNumbers x y == some .eq)
      | some x, none, _, .complex r i => pure (i == 0.0 && compareNumbers x (.inr r) == some .eq)
      | none, some y, .complex r i, _ => pure (i == 0.0 && compareNumbers (.inr r) y == some .eq)
      | _, _, _, _ =>
        match a.text?, b.text? with
        | some s, some t => pure (s == t)
        | _, _ =>
          match a.tuple?, b.tuple? with
          | some xs, some ys => equalLists (equalTo depth store) xs ys
          | _, _ =>
            match store.list? a, store.list? b with
            | some xs, some ys => equalLists (equalTo depth store) xs ys
            | _, _ =>
              match store.map? a, store.map? b with
              | some xs, some ys => equalMaps (equalTo depth store) xs ys
              | _, _ =>
                match store.set? a, store.set? b with
                | some xs, some ys => equalSets (equalTo depth store) xs ys
                | _, _ =>
                  match a, b with
                  | .ref i, .ref j => pure (i == j)
                  | _, _ => pure false

def equal (store : Store) (a b : Value) : Except Fault Bool := equalTo nestingLimit store a b

mutual

/-- Whether a value may be a key: it must not change, nor hold anything that does. -/
def hashable (store : Store) : Value → Bool
  | .tuple items => allHashable store items
  | .group key members => hashable store key && hashable store members
  | .ref id => match store[id]? with
    | some (.list _) | some (.map _) | some (.set _) => false
    | _ => true
  | .view .values _ => true
  | .view _ _ => false
  | _ => true

def allHashable (store : Store) : List Value → Bool
  | [] => true
  | v :: rest => hashable store v && allHashable store rest

end

def lookup? (store : Store) (entries : List (Value × Value)) (key : Value) :
    Except Fault (Option Value) :=
  if hashable store key then entryWith? (fun k => equal store k key) entries
  else throw .wrongType

/-- Entries with a value put under a key. A new key goes to the end, an old one keeps its
place. -/
def insertEntry (same : Value → Except Fault Bool) (key value : Value) :
    List (Value × Value) → Except Fault (List (Value × Value))
  | [] => pure [(key, value)]
  | (k, v) :: rest => do
    if ← same k then pure ((k, value) :: rest)
    else return (k, v) :: (← insertEntry same key value rest)

def putEntry (store : Store) (entries : List (Value × Value)) (key value : Value) :
    Except Fault (List (Value × Value)) :=
  if hashable store key then insertEntry (fun k => equal store k key) key value entries
  else throw .wrongType

def dropEntry (same : Value → Except Fault Bool) :
    List (Value × Value) → Except Fault (List (Value × Value))
  | [] => pure []
  | (k, v) :: rest => do
    if ← same k then pure rest else return (k, v) :: (← dropEntry same rest)

inductive Order where
  | lt | le | gt | ge
deriving Repr, DecidableEq

def Order.holds (o : Order) : Ordering → Bool
  | .lt => o == .lt || o == .le
  | .eq => o == .le || o == .ge
  | .gt => o == .gt || o == .ge

def compareTexts (s t : String) : Ordering :=
  if s < t then .lt else if s == t then .eq else .gt

def compareBytes : List UInt8 → List UInt8 → Ordering
  | [], [] => .eq
  | [], _ :: _ => .lt
  | _ :: _, [] => .gt
  | x :: xs, y :: ys => if x < y then .lt else if y < x then .gt else compareBytes xs ys

/-- Sequences are ordered by their first unequal elements, and by length where there are none. -/
def orderLists (store : Store) (order : Value → Value → Except Fault Bool) (o : Order) :
    List Value → List Value → Except Fault Bool
  | [], [] => pure (o.holds .eq)
  | [], _ :: _ => pure (o.holds .lt)
  | _ :: _, [] => pure (o.holds .gt)
  | x :: xs, y :: ys => do
    if ← equal store x y then orderLists store order o xs ys else order x y

/-- Sets are ordered by inclusion. -/
def orderSets (store : Store) (o : Order) (xs ys : List Value) : Except Fault Bool := do
  let within (xs ys : List Value) := allOf (fun x => anyOf (equal store x) ys) xs
  match o with
  | .le => within xs ys
  | .lt => return xs.length < ys.length && (← within xs ys)
  | .ge => within ys xs
  | .gt => return ys.length < xs.length && (← within ys xs)

/-- Whether `a` stands in the order `o` to `b`, to a given depth of nesting. -/
def orderedTo : Nat → Store → Order → Value → Value → Except Fault Bool
  | 0, _, _, _, _ => throw .tooDeep
  | depth + 1, store, o, a, b =>
    match a, b with
    | .undefined why, _ => throw why.fault
    | _, .undefined why => throw why.fault
    | .bytes s, .bytes t => pure (o.holds (compareBytes s t))
    | a, b =>
      match a.number?, b.number? with
      | some x, some y => pure ((compareNumbers x y).any o.holds)
      | _, _ =>
        match a.text?, b.text? with
        | some s, some t => pure (o.holds (compareTexts s t))
        | _, _ =>
          match a.tuple?, b.tuple? with
          | some xs, some ys => orderLists store (orderedTo depth store o) o xs ys
          | _, _ =>
            match store.list? a, store.list? b with
            | some xs, some ys => orderLists store (orderedTo depth store o) o xs ys
            | _, _ =>
              match store.set? a, store.set? b with
              | some xs, some ys => orderSets store o xs ys
              | _, _ => throw .wrongType

def ordered (store : Store) (o : Order) (a b : Value) : Except Fault Bool :=
  orderedTo nestingLimit store o a b

def length (store : Store) : Value → Except Fault Nat
  | .text s => pure s.length
  | .markup s => pure s.length
  | .bytes b => pure b.length
  | .tuple items => pure items.length
  | .group .. => pure 2
  | .range start stop step => pure (rangeLength start stop step)
  | .undefined _ => pure 0
  | .view _ id => pure (store.mapAt id).length
  | .ref id => match store[id]? with
    | some (.list items) => pure items.length
    | some (.map entries) => pure entries.length
    | some (.set items) => pure items.length
    | _ => throw .wrongType
  | _ => throw .wrongType

/-- Zero, empty, null and undefined values are false; all others are true. -/
def truthy (store : Store) : Value → Bool
  | .null => false
  | .bool b => b
  | .int i => i != 0
  | .float x => x != 0.0
  | .complex r i => r != 0.0 || i != 0.0
  | v => match length store v with
    | .ok n => n != 0
    | .error _ => true

end ClusterDiscovery.Expression
