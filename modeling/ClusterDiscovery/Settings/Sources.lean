import ClusterDiscovery.Datum.Access
import ClusterDiscovery.Environment.File
import ClusterDiscovery.Failure
import ClusterDiscovery.Json.Reader

/-! # Sources of settings

The fields of a settings object come from arguments, from the environment and from a variables
file. An earlier source wins; mappings of several sources are merged entry by entry. -/

namespace ClusterDiscovery

open Datum

inductive FieldShape where
  /-- The value is the text of the variable. -/
  | plain (name : String)
  | structured (name : String)
  /-- The value is an object with fields of its own, written in JSON. -/
  | nested (name : String) (fields : List FieldShape)

namespace FieldShape

def name : FieldShape → String
  | .plain name => name
  | .structured name => name
  | .nested name _ => name

def find? (shapes : List FieldShape) (name : String) : Option FieldShape :=
  shapes.find? fun shape => Text.lowerCase shape.name == Text.lowerCase name

end FieldShape

mutual

/-- Fields of a nested object are known whatever the case of their names. -/
def renameFields (shapes : List FieldShape) :
    List (Datum × Datum) → List (Datum × Datum)
  | [] => []
  | (key, value) :: rest =>
    let entry := match key with
      | .text name =>
        match FieldShape.find? shapes name with
        | some shape =>
          (.text shape.name, match shape with
            | .nested _ inner => renameWithin inner value
            | _ => value)
        | none => (key, value)
      | _ => (key, value)
    entry :: renameFields shapes rest

def renameWithin (shapes : List FieldShape) : Datum → Datum
  | .map entries => .map (entriesOf (renameFields shapes entries))
  | d => d

end

def FieldShape.read (shape : FieldShape) (source : VariableSource) (text : String) :
    Except Failure (Option Datum) :=
  let parsed : Except Failure Datum :=
    match Json.read? text with
    | some d => .ok d
    | none => .error (.undecodable shape.name source)
  let unlessNull (change : Datum → Datum) (d : Datum) : Option Datum :=
    if d.isNull then none else some (change d)
  match shape with
  | .plain _ => return some (.text text)
  | .structured _ => return unlessNull id (← parsed)
  | .nested _ inner => return unlessNull (renameWithin inner) (← parsed)

/-- The fields that the variables of a source set. A variable is named by a prefix and the
field. -/
def readFields (source : VariableSource) (lead : String) (given : List Variable) :
    List FieldShape → Except Failure (List (Datum × Datum))
  | [] => return []
  | shape :: rest => do
    let field ← match Environment.valueOf? given (lead ++ shape.name) with
      | none => pure none
      | some value => shape.read source value
    let others ← readFields source lead given rest
    return match field with
      | some d => (.text shape.name, d) :: others
      | none => others

mutual

/-- Two mappings in one. Where both have an entry the second one wins, and mappings are merged in
turn. -/
def mergeEntries (base : List (Datum × Datum)) :
    List (Datum × Datum) → List (Datum × Datum)
  | [] => base
  | (key, value) :: rest =>
    mergeEntries (put base key (mergeInto (lookup? base key) value)) rest

/-- A value merged into the one that is there. -/
def mergeInto (there : Option Datum) : Datum → Datum
  | .map entries =>
    match there with
    | some (.map base) => .map (mergeEntries base entries)
    | _ => .map entries
  | d => d

end

structure SettingsForm where
  /-- What stands in front of the names of its variables. -/
  lead : String
  fields : List FieldShape
  /-- Whether the variables file is read as well. -/
  readsFile : Bool

def SettingsForm.names (form : SettingsForm) : List String := form.fields.map (·.name)

/-- All fields that are set, in all sources. -/
def SettingsForm.gather (form : SettingsForm) (env : Environment)
    (arguments : List (Datum × Datum)) : Except Failure (List (Datum × Datum)) := do
  let fromProcess ← readFields .process form.lead env.processVariables form.fields
  let fromFile ←
    if form.readsFile then
      readFields .file form.lead env.fileVariables form.fields
    else pure []
  return mergeEntries (mergeEntries fromFile fromProcess) arguments

end ClusterDiscovery
