import ClusterDiscovery.Datum
import ClusterDiscovery.Number.Decimal
import ClusterDiscovery.Text.Class

/-! # Values of the expression language

Plain values stand for themselves. Lists, mappings and everything else that can change live in a
store and are named by their place in it, so that two names of one list see each other's
changes. -/

namespace ClusterDiscovery.Expression

abbrev ObjectId := Nat

/-- Why a value is undefined: the message that its use raises, and whether the reason is a
refused access. -/
structure Missing where
  message : String
  refused : Bool
deriving Repr, DecidableEq

def Missing.fault (m : Missing) : Fault :=
  if m.refused then .accessRefused m.message else .undefinedUsed m.message

/-- The three ways to look at a mapping as a collection. -/
inductive ViewKind where
  | keys | values | items
deriving Repr, DecidableEq

inductive Value where
  | null
  | bool (b : Bool)
  | int (i : Int)
  | float (x : Float)
  | complex (re im : Float)
  | text (s : String)
  /-- Text that is already escaped for markup. -/
  | markup (s : String)
  | bytes (b : List UInt8)
  | tuple (items : List Value)
  /-- A group of a grouping: a pair whose halves also have names. -/
  | group (key members : Value)
  | range (start stop step : Int)
  | undefined (why : Missing)
  | ref (id : ObjectId)
  | view (kind : ViewKind) (id : ObjectId)
  /-- A member function together with the value it belongs to. -/
  | method (receiver : Value) (name : String)
  | function (name : String)
  /-- A member function of a built-in type, without a value. -/
  | unbound (type : String) (name : String)
  /-- The expression's own environment, which has no members to read. -/
  | environment

structure Arguments where
  positional : List Value
  named : List (String × Value)

/-- What a lazy sequence does to each element. -/
inductive Transform where
  /-- Follows a path of attributes, with a replacement for undefined steps. -/
  | follow (path : List Value) (replacement : Option Value)
  | filter (name : Value) (args : Arguments)

/-- How a lazy sequence chooses elements. -/
inductive Selector where
  | truth
  | test (name : Value) (args : Arguments)

/-- Sequences whose elements are computed on demand. The first group has not looked at its source
yet; the second has, and `source` names the iterator it draws from. -/
inductive Lazy where
  | toMap (source : Value) (args : Arguments)
  | toSelect (source : Value) (args : Arguments) (keep byAttribute : Bool)
  | toBatch (source size fill : Value)
  | toSlice (source count fill : Value)
  | toUnique (source : Value) (caseSensitive : Bool) (path : Value)
  | toItems (source : Value)
  | mapped (transform : Transform) (source : ObjectId)
  | selected (path : List Value) (selector : Selector) (keep : Bool) (source : ObjectId)
  | batched (size fill : Value) (pending : List Value) (source : ObjectId)
  | distinct (path : List Value) (caseSensitive : Bool) (seen : List Value) (source : ObjectId)
  | drawn (rest : List Value)

/-- What a place of the store holds. -/
inductive Object where
  | list (items : List Value)
  | map (entries : List (Value × Value))
  | set (items : List Value)
  /-- An iterator over elements that are already there. -/
  | iterator (type : String) (rest : List Value)
  | generator (state : Lazy)
  | cycler (items : List Value) (position : Nat)
  | joiner (separator : Value) (used : Bool)

abbrev Store := Array Object

/-- Computations over the store. Changes stay even when the computation fails. -/
abbrev Run := EStateM Fault Store

namespace Run

def alloc (o : Object) : Run Value := do
  let store ← get
  set (store.push o)
  return .ref store.size

def allocList (items : List Value) : Run Value := alloc (.list items)

/-- Every reference that a value holds was allocated, so the fallback is never read. -/
def read (id : ObjectId) : Run Object := do
  return (← get)[id]?.getD (.list [])

def write (id : ObjectId) (o : Object) : Run Unit :=
  modify fun store => store.setIfInBounds id o

end Run

namespace Value

def tuple? : Value → Option (List Value)
  | .tuple items => some items
  | .group key members => some [key, members]
  | _ => none

def text? : Value → Option String
  | .text s => some s
  | .markup s => some s
  | _ => none

/-- A truth value counts as the integer 0 or 1. -/
def int? : Value → Option Int
  | .int i => some i
  | .bool b => some (if b then 1 else 0)
  | _ => none

def isUndefined : Value → Bool
  | .undefined _ => true
  | _ => false

end Value

def Object.typeName : Object → String
  | .list _ => "list"
  | .map _ => "dict"
  | .set _ => "set"
  | .iterator type _ => type
  | .generator _ => "generator"
  | .cycler .. => "Cycler"
  | .joiner .. => "Joiner"

def ViewKind.typeName : ViewKind → String
  | .keys => "dict_keys"
  | .values => "dict_values"
  | .items => "dict_items"

/-- Types whose members are written in the expression language's own library. -/
def hasLibraryMethods (o : Object) : Bool :=
  match o with
  | .cycler .. | .joiner .. => true
  | _ => false

namespace Value

def typeName (store : Store) : Value → String
  | .null => "NoneType"
  | .bool _ => "bool"
  | .int _ => "int"
  | .float _ => "float"
  | .complex .. => "complex"
  | .text _ => "str"
  | .markup _ => "Markup"
  | .bytes _ => "bytes"
  | .tuple _ => "tuple"
  | .group .. => "_GroupTuple"
  | .range .. => "range"
  | .undefined _ => "Undefined"
  | .ref id => (store[id]?.map Object.typeName).getD "list"
  | .view kind _ => kind.typeName
  | .method receiver name =>
    match receiver with
    | .text _ => if name == "format" || name == "format_map" then "function"
      else "builtin_function_or_method"
    | .markup _ => if name == "format" || name == "format_map" then "function" else "method"
    | .ref id =>
      if (store[id]?.map hasLibraryMethods).getD false then "method"
      else "builtin_function_or_method"
    | _ => "builtin_function_or_method"
  | .function name => if name == "range" || name == "lipsum" then "function" else "type"
  | .unbound .. => "method_descriptor"
  | .environment => "TemplateReference"

/-- The name of a value's type as messages give it. -/
def describedType (store : Store) (v : Value) : String :=
  match v with
  | .null => "None"
  | .markup _ => "markupsafe.Markup object"
  | .group .. => "jinja2.filters._GroupTuple object"
  | .undefined _ => "jinja2.runtime.Undefined object"
  | .environment => "jinja2.runtime.TemplateReference object"
  | v =>
    match v.typeName store with
    | "Cycler" => "jinja2.utils.Cycler object"
    | "Joiner" => "jinja2.utils.Joiner object"
    | name => name ++ " object"

end Value

end ClusterDiscovery.Expression
