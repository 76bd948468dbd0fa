import ClusterDiscovery.Datum
import ClusterDiscovery.Expression.Compare

/-! # Data and values

Data are put into the store before an expression is evaluated, and results and changed data are
taken out of it afterwards. -/

namespace ClusterDiscovery.Expression

mutual

def load : Datum → Run Value
  | .null => return .null
  | .bool b => return .bool b
  | .int i => return .int i
  | .float x => return .float x
  | .text s => return .text s
  | .bytes b => return .bytes b
  | .list items => do Run.allocList (← loadAll items)
  | .tuple items => return .tuple (← loadAll items)
  | .map entries => do Run.alloc (.map (← loadEntries entries))
  | .undefined => return .undefined ⟨"", false⟩
  | .foreign type => Run.alloc (.iterator type [])

def loadAll : List Datum → Run (List Value)
  | [] => return []
  | d :: rest => return (← load d) :: (← loadAll rest)

def loadEntries : List (Datum × Datum) → Run (List (Value × Value))
  | [] => return []
  | (k, d) :: rest => do
    let key ← load k
    let value ← load d
    return (key, value) :: (← loadEntries rest)

end

/-- The data of a value, to a given depth of nesting. -/
def unloadTo : Nat → Store → Value → Datum
  | 0, store, v => .foreign (v.typeName store)
  | depth + 1, store, v =>
    let all (items : List Value) : List Datum := items.map (unloadTo depth store)
    match v with
    | .null => .null
    | .bool b => .bool b
    | .int i => .int i
    | .float x => .float x
    | .text s => .text s
    | .markup s => .text s
    | .bytes b => .bytes b
    | .tuple items => .tuple (all items)
    | .group key members => .tuple (all [key, members])
    | .undefined _ => .undefined
    | .ref id =>
      match store[id]? with
      | some (.list items) => .list (all items)
      | some (.map entries) =>
        .map (entries.map fun (k, w) => (unloadTo depth store k, unloadTo depth store w))
      | some (.set items) => .list (all items)
      | _ => .foreign (v.typeName store)
    | v => .foreign (v.typeName store)

def unload (store : Store) (v : Value) : Datum := unloadTo nestingLimit store v

end ClusterDiscovery.Expression
