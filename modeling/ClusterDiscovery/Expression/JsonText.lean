import ClusterDiscovery.Expression.Display
import ClusterDiscovery.Json.Writer

/-! # Values as JSON texts

Entries of mappings are sorted by their keys. Only what JSON can express is written; a value that
contains itself is refused. -/

namespace ClusterDiscovery.Expression

open ClusterDiscovery.Number

/-- What stands between the parts of a JSON text: nothing but blanks on one line, or line breaks
with an indentation. -/
structure JsonLayout where
  indent : Option String

namespace JsonLayout

def lineBreak (l : JsonLayout) (level : Nat) : String :=
  match l.indent with
  | none => ""
  | some unit => "\n" ++ String.join (List.replicate level unit)

def separator (l : JsonLayout) (level : Nat) : String :=
  match l.indent with
  | none => ", "
  | some _ => "," ++ l.lineBreak level

def enclose (l : JsonLayout) (level : Nat) (opening closing : String) (parts : List String) :
    String :=
  if parts.isEmpty then opening ++ closing
  else
    opening ++ l.lineBreak (level + 1) ++ String.intercalate (l.separator (level + 1)) parts
      ++ l.lineBreak level ++ closing

end JsonLayout

def jsonFloat (x : Float) : String :=
  if x.isNaN then "NaN"
  else if isFinite x then floatText x
  else if isNegative x then "-Infinity" else "Infinity"

/-- The text of a key: texts as they are, numbers and names by their JSON text. -/
def jsonKey : Value → Except Fault String
  | .text s => pure s
  | .markup s => pure s
  | .null => pure "null"
  | .bool b => pure (if b then "true" else "false")
  | .int i => displayInt i
  | .float x => pure (jsonFloat x)
  | _ => throw .wrongType

def sortedEntries (store : Store) (entries : List (Value × Value)) :
    Except Fault (List (Value × Value)) := do
  entries.foldlM (fun acc entry => insert entry acc) []
where
  insert (entry : Value × Value) : List (Value × Value) → Except Fault (List (Value × Value))
    | [] => pure [entry]
    | other :: rest => do
      if ← ordered store .lt entry.1 other.1 then pure (entry :: other :: rest)
      else return other :: (← insert entry rest)

/-- The JSON text of a value. `opened` holds the objects that are being written. -/
def jsonTo : Nat → Store → JsonLayout → Nat → List ObjectId → Value → Except Fault String
  | 0, _, _, _, _, _ => throw .tooDeep
  | depth + 1, store, layout, level, opened, v =>
    let items (opened : List ObjectId) (xs : List Value) : Except Fault String := do
      let parts ← displayAll (jsonTo depth store layout (level + 1) opened) xs
      return layout.enclose level "[" "]" parts
    match v with
    | .null => pure "null"
    | .bool b => pure (if b then "true" else "false")
    | .int i => displayInt i
    | .float x => pure (jsonFloat x)
    | .text s => pure (Json.string true s)
    | .markup s => pure (Json.string true s)
    | .tuple xs => items opened xs
    | .group key members => items opened [key, members]
    | .ref id =>
      if opened.contains id then throw .badValue
      else match store[id]? with
        | some (.list xs) => items (id :: opened) xs
        | some (.map entries) => do
          let entries ← sortedEntries store entries
          let values ← displayAll (jsonTo depth store layout (level + 1) (id :: opened))
            (entries.map (·.2))
          let keys ← entries.mapM fun entry => jsonKey entry.1
          let parts := (keys.zip values).map fun (k, v) => Json.string true k ++ ": " ++ v
          return layout.enclose level "\x7b" "\x7d" parts
        | _ => throw .wrongType
    | _ => throw .wrongType

def jsonText (store : Store) (layout : JsonLayout) (v : Value) : Except Fault String :=
  jsonTo nestingLimit store layout 0 [] v

/-- The characters that could end or open markup are written as escapes. -/
def markupSafe (s : String) : String :=
  String.ofList (s.toList.flatMap fun c =>
    if c == '<' || c == '>' || c == '&' || c == '\'' then Json.unitEscape c.toNat else [c])

end ClusterDiscovery.Expression
