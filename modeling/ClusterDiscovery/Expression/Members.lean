import ClusterDiscovery.Expression.MemberNames
import ClusterDiscovery.Expression.Operators

/-! # Members of values

Reading `x.name` and `x[key]`. A name looks for a member first and for a key second, a key the
other way round. What is not found is undefined, and so is a protected member that exists. -/

namespace ClusterDiscovery.Expression

open MemberNames

def protectedNames (store : Store) (v : Value) : List String :=
  match v with
  | .null => ["__bool__"]
  | .bool _ | .int _ => integerProtected
  | .float _ => floatProtected
  | .complex .. => complexProtected
  | .text _ => textProtected
  | .markup _ => textProtected ++ markupProtected
  | .bytes _ => "__bytes__" :: textProtected
  | .tuple _ => tupleProtected
  | .group .. =>
    ["_asdict", "_field_defaults", "_fields", "_make", "_replace", "__match_args__",
      "__module__", "__slots__"] ++ tupleProtected
  | .range .. => rangeProtected
  | .undefined _ => undefinedProtected
  | .view .values _ => ["__iter__", "__len__", "__reversed__"]
  | .view .. => setViewProtected
  | .method .. =>
    if v.typeName store == "builtin_function_or_method" then functionProtected
    else libraryProtected
  | .function "dict" => "mro" :: (mapProtected ++ typeProtected)
  | .function "cycler" | .function "joiner" => "mro" :: (objectProtected ++ typeProtected)
  | .function _ => libraryProtected
  | .unbound .. => "__get__" :: "__objclass__" :: functionProtected
  | .environment =>
    ["__module__", "__dict__", "__getitem__", "__weakref__", "_TemplateReference__context"]
  | .ref id => match store[id]? with
    | some (.list _) => listProtected
    | some (.map _) => mapProtected
    | some (.set _) => setProtected
    | some (.generator _) => generatorProtected
    | some (.iterator ..) => iteratorProtected
    | some _ => objectProtected
    | none => []

def hasProtected (store : Store) (v : Value) (name : String) : Bool :=
  (name.startsWith "_" && commonProtected.contains name)
    || (protectedNames store v).contains name

/-- A member function of the value, if it is one of the names given. -/
def methodAmong (names : List String) (v : Value) (name : String) : Option Value :=
  if names.contains name then some (.method v name) else none

def integerMember? (i : Int) (name : String) : Option Value :=
  match name with
  | "real" | "numerator" => some (.int i)
  | "imag" => some (.int 0)
  | "denominator" => some (.int 1)
  | name => methodAmong integerMembers (.int i) name

def member? (store : Store) (v : Value) (name : String) : Option Value :=
  match v with
  | .bool b => integerMember? (if b then 1 else 0) name
  | .int i => integerMember? i name
  | .float x =>
    match name with
    | "real" => some (.float x)
    | "imag" => some (.float 0.0)
    | name => methodAmong floatMembers v name
  | .complex r i =>
    match name with
    | "real" => some (.float r)
    | "imag" => some (.float i)
    | name => methodAmong complexMembers v name
  | .text _ => methodAmong textMembers v name
  | .markup _ => methodAmong ("escape" :: "striptags" :: "unescape" :: textMembers) v name
  | .bytes _ => methodAmong bytesMembers v name
  | .tuple _ => methodAmong tupleMembers v name
  | .group key members =>
    match name with
    | "grouper" => some key
    | "list" => some members
    | name => methodAmong tupleMembers v name
  | .range start stop step =>
    match name with
    | "start" => some (.int start)
    | "stop" => some (.int stop)
    | "step" => some (.int step)
    | name => methodAmong rangeMembers v name
  | .view kind _ => if kind == .values then none else methodAmong ["isdisjoint"] v name
  | .function "dict" =>
    if name == "fromkeys" then some (.method v name)
    else if mapMembers.contains name then some (.unbound "dict" name) else none
  | .ref id => match store[id]? with
    | some (.list _) => methodAmong listMembers v name
    | some (.map _) => methodAmong mapMembers v name
    | some (.set _) => methodAmong setMembers v name
    | some (.cycler items position) =>
      match name with
      | "items" => some (.tuple items)
      | "pos" => some (.int position)
      | "current" => items[position]?
      | name => methodAmong ["next", "reset"] v name
    | some (.joiner separator used) =>
      match name with
      | "sep" => some separator
      | "used" => some (.bool used)
      | _ => none
    | some (.generator _) =>
      match name with
      | "gi_running" | "gi_suspended" => some (.bool false)
      | "gi_yieldfrom" => some .null
      | name => methodAmong ["close", "send", "throw"] v name
    | _ => none
  | _ => none

/-- What a name of a value gives when only members count: nothing when there is no such
member. -/
def readMember? (store : Store) (v : Value) (name : String) : Option Value :=
  if hasProtected store v name then some (.undefined (Missing.ofProtected store v name))
  else member? store v name

/-- Faults of a subscript that mean that there is no such element. -/
def Fault.isAbsence : Fault → Bool
  | .wrongType | .missingKey | .outOfRange => true
  | _ => false

/-- The element under a key, or nothing when there is none. -/
def element? (v key : Value) : Run (Option Value) :=
  tryCatch (do return some (← subscript v key)) fun f =>
    if Fault.isAbsence f then pure none else throw f

def undefinedMember (v key : Value) : Run Value := do
  return .undefined (← lift (Missing.ofMember (← get) v key))

/-- `v.name`: the member, or else the element under that key. -/
def getAttribute (v : Value) (name : String) : Run Value := do
  match readMember? (← get) v name with
  | some found => return found
  | none =>
    match v with
    | .undefined why => throw why.fault
    | v =>
      match ← element? v (.text name) with
      | some found => return found
      | none => undefinedMember v (.text name)

/-- `v[key]`: the element, or else the member of that name. -/
def getItem (v key : Value) : Run Value := do
  match ← element? v key with
  | some found => return found
  | none =>
    match key.text? with
    | none => undefinedMember v key
    | some name =>
      match readMember? (← get) v name with
      | some found => return found
      | none => undefinedMember v key

end ClusterDiscovery.Expression
