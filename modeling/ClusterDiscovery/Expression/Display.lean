import ClusterDiscovery.Expression.Compare
import ClusterDiscovery.Spelling

/-! # Values as text

Every value has a plain text and a quoted one. They differ for texts, which stand for themselves
in the first and between quotes in the second, and for undefined values, whose plain text is
empty. -/

namespace ClusterDiscovery.Expression

open ClusterDiscovery.Number ClusterDiscovery.Text

def displayAll (display : Value → Except Fault String) : List Value → Except Fault (List String)
  | [] => pure []
  | x :: xs => return (← display x) :: (← displayAll display xs)

def displayEntries (display : Value → Except Fault String) :
    List (Value × Value) → Except Fault (List String)
  | [] => pure []
  | (k, v) :: rest => do
    let key ← display k
    let value ← display v
    return (key ++ ": " ++ value) :: (← displayEntries display rest)

def displayRange (start stop step : Int) : String :=
  let ends := intText start ++ ", " ++ intText stop
  if step == 1 then "range(" ++ ends ++ ")" else "range(" ++ ends ++ ", " ++ intText step ++ ")"

def displayFunction : String → String
  | "dict" => "<class 'dict'>"
  | "cycler" => "<class 'jinja2.utils.Cycler'>"
  | "joiner" => "<class 'jinja2.utils.Joiner'>"
  | name => "<function " ++ name ++ ">"

/-- The quoted text of a value, to a given depth. `open` holds the objects that are being
written, so that one that contains itself is cut short. -/
def quotedTo : Nat → Store → List ObjectId → Value → Except Fault String
  | 0, _, _, _ => throw .tooDeep
  | depth + 1, store, opened, v =>
    match v with
    | .null => pure "None"
    | .bool b => pure (if b then "True" else "False")
    | .int i => displayInt i
    | .float x => pure (floatText x)
    | .complex r i => pure (complexText r i)
    | .text s => pure (quoted s)
    | .markup s => pure ("Markup(" ++ quoted s ++ ")")
    | .bytes b => pure (bytesText b)
    | .tuple items => return displayTuple (← displayAll (quotedTo depth store opened) items)
    | .group key members =>
      return displayTuple (← displayAll (quotedTo depth store opened) [key, members])
    | .range start stop step => pure (displayRange start stop step)
    | .undefined _ => pure "Undefined"
    | .view kind id => do
      let parts ← displayAll (quotedTo depth store opened) (store.viewItems kind id)
      return kind.typeName ++ "([" ++ commaSeparated parts ++ "])"
    | .method _ name => pure ("<built-in method " ++ name ++ ">")
    | .function name => pure (displayFunction name)
    | .unbound type name => pure ("<method '" ++ name ++ "' of '" ++ type ++ "' objects>")
    | .environment => pure "<TemplateReference None>"
    | .ref id =>
      match store[id]? with
      | some (.list items) =>
        if opened.contains id then pure "[...]"
        else do
          let parts ← displayAll (quotedTo depth store (id :: opened)) items
          return "[" ++ commaSeparated parts ++ "]"
      | some (.map entries) =>
        if opened.contains id then pure "\x7b...\x7d"
        else do
          let parts ← displayEntries (quotedTo depth store (id :: opened)) entries
          return "\x7b" ++ commaSeparated parts ++ "\x7d"
      | some (.set items) => do
        if items.isEmpty then return "set()"
        let parts ← displayAll (quotedTo depth store (id :: opened)) items
        return "\x7b" ++ commaSeparated parts ++ "\x7d"
      | some (.cycler ..) => pure "<jinja2.utils.Cycler object>"
      | some (.joiner ..) => pure "<jinja2.utils.Joiner object>"
      | some o => pure ("<" ++ o.typeName ++ " object>")
      | none => pure "[]"

def quotedText (store : Store) (v : Value) : Except Fault String :=
  quotedTo nestingLimit store [] v

def plainText (store : Store) : Value → Except Fault String
  | .text s => pure s
  | .markup s => pure s
  | .undefined _ => pure ""
  | v => quotedText store v

/-- The message of an undefined name. -/
def Missing.ofName (name : String) : Missing := ⟨quoted name ++ " is undefined", false⟩

/-- The message of a member or element that a value does not have. -/
def Missing.ofMember (store : Store) (receiver key : Value) : Except Fault Missing := do
  let type := receiver.describedType store
  match key.text? with
  | some _ =>
    return ⟨quoted type ++ " has no attribute " ++ (← quotedText store key), false⟩
  | none => return ⟨type ++ " has no element " ++ (← quotedText store key), false⟩

/-- The message of a member that the language protects. -/
def Missing.ofProtected (store : Store) (receiver : Value) (name : String) : Missing :=
  ⟨"access to attribute " ++ quoted name ++ " of " ++ quoted (receiver.typeName store)
    ++ " object is unsafe.", true⟩

end ClusterDiscovery.Expression
