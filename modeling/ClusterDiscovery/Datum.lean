/-! # Data and faults

Data as they come from a cluster or a configuration: a tree of plain values. Mappings keep their
entries in the order of insertion. A fault is what can go wrong while data of an unforeseen shape
are read or computed with. -/

namespace ClusterDiscovery

/-- The cause of a fault. Those that carry a message are the ones whose wording is part of an
answer. -/
inductive Fault where
  /-- An operation met a value of a kind it does not work on, or a wrong number of arguments. -/
  | wrongType
  /-- A value has no member of the name asked for. -/
  | noMember
  /-- A mapping does not hold the key. -/
  | missingKey
  /-- A position lies outside a sequence. -/
  | outOfRange
  /-- A value of the right kind is not among the accepted ones. -/
  | badValue
  /-- A text cannot be written in, or read from, the chosen encoding. -/
  | badEncoding (writing : Bool)
  /-- No encoding has the name asked for. -/
  | unknownEncoding
  | divisionByZero
  /-- A number is too large for the operation. -/
  | tooLarge
  /-- An infinite or undetermined number stands where a constant has to be spelled out. -/
  | unspellableNumber
  /-- A stated precondition does not hold. -/
  | unmetCondition
  /-- An expression has a form that cannot be compiled. -/
  | invalidForm
  /-- Values are nested too deeply, or a computation takes too many steps. -/
  | tooDeep
  /-- An operation was asked for in a state that does not allow it. -/
  | badState
  /-- An undefined value was used. -/
  | undefinedUsed (message : String)
  /-- Access to a protected member was refused. -/
  | accessRefused (message : String)
  /-- A filter or a test chosen at run time does not exist. -/
  | unknownOperation (message : String)
  /-- A filter was given arguments that it rejects. -/
  | badFilterArgument (message : String)
deriving Repr, DecidableEq

inductive Datum where
  | null
  | bool (b : Bool)
  | int (i : Int)
  | float (x : Float)
  | text (s : String)
  | bytes (b : List UInt8)
  | list (items : List Datum)
  | tuple (items : List Datum)
  | map (entries : List (Datum × Datum))
  /-- The result of reading something that is not there. -/
  | undefined
  /-- A value that is no data, known by its type only. -/
  | foreign (type : String)
deriving Inhabited

mutual

/-- How deep data are nested. Plain values have depth one. -/
def Datum.depth : Datum → Nat
  | .list items => deepest items + 1
  | .tuple items => deepest items + 1
  | .map entries => deepestEntry entries + 1
  | _ => 1

def deepest : List Datum → Nat
  | [] => 0
  | d :: rest => max d.depth (deepest rest)

def deepestEntry : List (Datum × Datum) → Nat
  | [] => 0
  | (key, d) :: rest => max (max key.depth d.depth) (deepestEntry rest)

end

end ClusterDiscovery
