import ClusterDiscovery.Datum
import ClusterDiscovery.Number.Binary64

/-! # Reading data

Truth, equality and look-up on data. Data from outside may have any shape, so a look-up that a
shape does not allow is a fault. -/

namespace ClusterDiscovery.Datum

open ClusterDiscovery.Number

/-- What is null, zero or empty is false, all else is true. -/
def truthy : Datum → Bool
  | .null => false
  | .bool b => b
  | .int i => i != 0
  | .float x => x != 0.0
  | .text s => !s.isEmpty
  | .bytes b => !b.isEmpty
  | .list items => !items.isEmpty
  | .tuple items => !items.isEmpty
  | .map entries => !entries.isEmpty
  | .undefined => false
  | .foreign _ => true

/-- A value, or another one in place of a false one. -/
def orElse (d fallback : Datum) : Datum := if d.truthy then d else fallback

def text? : Datum → Option String
  | .text s => some s
  | _ => none

def textOrNull (s : Option String) : Datum := (s.map Datum.text).getD .null

def record (fields : List (String × Datum)) : Datum :=
  .map (fields.map fun (name, d) => (.text name, d))

def isNull : Datum → Bool
  | .null => true
  | _ => false

def number? : Datum → Option (Int ⊕ Float)
  | .bool b => some (.inl (if b then 1 else 0))
  | .int i => some (.inl i)
  | .float x => some (.inr x)
  | _ => none

def sameNumber (a b : Datum) : Bool :=
  match a.number?, b.number? with
  | some x, some y => compareNumbers x y == some .eq
  | _, _ => false

mutual

/-- Equality of data. Numbers of all kinds are equal by value, mappings whatever the order of
their entries. -/
def same : Datum → Datum → Bool
  | .null, .null => true
  | .undefined, .undefined => true
  | .text s, .text t => s == t
  | .bytes s, .bytes t => s == t
  | .list xs, .list ys => sameAll xs ys
  | .tuple xs, .tuple ys => sameAll xs ys
  | .map xs, .map ys => xs.length == ys.length && sameEntries xs ys
  | a, b => sameNumber a b

def sameAll : List Datum → List Datum → Bool
  | [], [] => true
  | x :: xs, y :: ys => same x y && sameAll xs ys
  | _, _ => false

/-- Every entry of the first mapping is one of the second. -/
def sameEntries : List (Datum × Datum) → List (Datum × Datum) → Bool
  | [], _ => true
  | (k, v) :: rest, ys =>
    (match ys.find? fun entry => same k entry.1 with
      | some entry => same v entry.2
      | none => false) && sameEntries rest ys

end

mutual

/-- Whether a value may be a key or the member of a set. -/
def isKey : Datum → Bool
  | .list _ => false
  | .map _ => false
  | .tuple items => areKeys items
  | _ => true

def areKeys : List Datum → Bool
  | [] => true
  | d :: rest => isKey d && areKeys rest

end

def lookup? (entries : List (Datum × Datum)) (key : Datum) : Option Datum :=
  (entries.find? fun entry => same key entry.1).map (·.2)

def named? (entries : List (Datum × Datum)) (name : String) : Option Datum :=
  lookup? entries (.text name)

/-- Sets the value under a key. A key that is there keeps its place. -/
def put (entries : List (Datum × Datum)) (key value : Datum) : List (Datum × Datum) :=
  match entries with
  | [] => [(key, value)]
  | (k, v) :: rest => if same key k then (k, value) :: rest else (k, v) :: put rest key value

def putAll (entries more : List (Datum × Datum)) : List (Datum × Datum) :=
  more.foldl (fun entries (k, v) => put entries k v) entries

/-- A mapping built entry by entry. -/
def entriesOf (pairs : List (Datum × Datum)) : List (Datum × Datum) := putAll [] pairs

def optional (d : Datum) (name : String) : Except Fault Datum :=
  match d with
  | .map entries => .ok ((named? entries name).getD .null)
  | _ => .error .noMember

def required (d : Datum) (name : String) : Except Fault Datum :=
  match d with
  | .map entries =>
    match named? entries name with
    | some v => .ok v
    | none => .error .missingKey
  | _ => .error .wrongType

/-- The elements of a value that can be run through. -/
def elements : Datum → Except Fault (List Datum)
  | .list items => .ok items
  | .tuple items => .ok items
  | .map entries => .ok (entries.map (·.1))
  | .text s => .ok (s.toList.map fun c => .text (String.singleton c))
  | .bytes b => .ok (b.map fun x => .int x.toNat)
  | _ => .error .wrongType

/-- The two parts of an element from which an entry is made. -/
def pairOf (d : Datum) : Except Fault (Datum × Datum) := do
  match ← d.elements with
  | [k, v] => if k.isKey then return (k, v) else throw .wrongType
  | _ => throw .badValue

/-- The entries of a new mapping made from a mapping or from pairs. -/
def copiedEntries : Datum → Except Fault (List (Datum × Datum))
  | .map entries => .ok entries
  | d => do return entriesOf (← (← d.elements).mapM pairOf)

end ClusterDiscovery.Datum
