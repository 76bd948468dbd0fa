import ClusterDiscovery.Datum.Access
import ClusterDiscovery.Failure
import ClusterDiscovery.Text.Case
import ClusterDiscovery.Yaml.Reader

/-! # Logging

How reports are filtered and written: the level below which they are dropped, how many handlers
take them, and their form. The three come from the name of a level, or from a configuration in
YAML. -/

namespace ClusterDiscovery

open Datum

inductive ReportForm where
  | console | json
deriving Repr, DecidableEq

structure LoggingSetup where
  /-- Reports below this level are dropped. -/
  threshold : Int
  handlers : Nat
  form : ReportForm
deriving Repr, DecidableEq

inductive LoggingSource where
  | level
  /-- A configuration file was named that is not there. -/
  | missingFile
  | file (content : String)
deriving Repr, DecidableEq

namespace Logging

/-- The levels by name; where two share a level, the first names it. -/
def levels : List (String × Int) :=
  [("CRITICAL", 50), ("FATAL", 50), ("ERROR", 40), ("WARNING", 30), ("WARN", 30), ("INFO", 20),
    ("DEBUG", 10), ("NOTSET", 0)]

def levelNamed? (name : String) : Option Int := (levels.find? fun e => e.1 == name).map (·.2)

def levelName (level : Int) : String :=
  match levels.find? fun e => e.2 == level with
  | some e => e.1
  | none => "Level " ++ toString level

def defaultThreshold : Int := 30

def levelOf (d : Datum) : Except Fault Int :=
  match d with
  | .int i => .ok i
  | .bool b => .ok (if b then 1 else 0)
  | .text name =>
    match levelNamed? name with
    | some level => .ok level
    | none => .error .badValue
  | _ => .error .wrongType

/-- A part of a configuration whose faults all count as bad values. -/
def checked {α : Type} (part : Except Fault α) : Except Fault α := part.mapError fun _ => .badValue

/-- The kinds of handlers, with what each needs and what it may be given besides. -/
def handlerKinds : List (String × List String × List String) :=
  [("logging.StreamHandler", [], ["stream"]), ("logging.NullHandler", [], []),
    ("logging.FileHandler", ["filename"], ["mode", "encoding", "delay", "errors"])]

/-- What every handler may be given. -/
def commonOptions : List String := ["class", "level", "formatter", "filters"]

def checkHandler (formatters : List (Datum × Datum)) (d : Datum) : Except Fault Unit := do
  let .map entries := d | throw .wrongType
  let .text kind ← d.required "class" | throw .wrongType
  let some (_, needed, allowed) := handlerKinds.find? fun k => k.1 == kind | throw .badValue
  if needed.any fun name => (named? entries name).isNone then throw .wrongType
  unless entries.all fun e => match e.1 with
    | .text name => (commonOptions ++ needed ++ allowed).contains name
    | _ => false
  do throw .wrongType
  match named? entries "level" with
  | none | some .null => pure ()
  | some level => discard (levelOf level)
  match (named? entries "formatter").filter truthy with
  | none => pure ()
  | some name => if (lookup? formatters name).isNone then throw .missingKey

/-- The named parts of a configuration. One that is there but has no names cannot be used. -/
def partsOf (entries : List (Datum × Datum)) (name : String) :
    Except Fault (List (Datum × Datum)) :=
  match named? entries name with
  | none => .ok []
  | some (.map parts) => .ok parts
  | some d => do if (← d.elements).isEmpty then .ok [] else .error .badValue

def distinct (names : List Datum) : List Datum :=
  names.foldl (fun seen d => if seen.any d.same then seen else seen ++ [d]) []

/-- The level and the number of handlers that the description of a logger gives it. -/
def loggerSetup (handlers : List (Datum × Datum)) (d : Datum) :
    Except Fault (Option Int × Nat) := do
  let .map entries := d | throw .noMember
  let level ← match named? entries "level" with
    | none | some .null => pure none
    | some level => some <$> levelOf level
  match (named? entries "handlers").filter truthy with
  | none => return (level, 0)
  | some names =>
    let names ← names.elements
    if names.any fun name => (lookup? handlers name).isNone then throw .missingKey
    return (level, (distinct names).length)

def configured (config : Datum) : Except Fault (Int × Nat) := do
  let entries ← copiedEntries config
  let version ← checked (required (.map entries) "version")
  unless version.same (.int 1) do throw .badValue
  let formatters ← partsOf entries "formatters"
  let handlers ← partsOf entries "handlers"
  for (_, handler) in handlers do
    checked (checkHandler formatters handler)
  for (_, logger) in ← partsOf entries "loggers" do
    discard (checked (loggerSetup handlers logger))
  match (named? entries "root").filter truthy with
  | none => return (defaultThreshold, 0)
  | some root =>
    let (level, count) ← checked (loggerSetup handlers root)
    return (level.getD defaultThreshold, count)

def defaultLevel : String := "INFO"

/-- One handler, which takes reports from a named level on. The case of the name does not
matter. -/
def ofLevel (name : String) (form : ReportForm) : Except Failure LoggingSetup :=
  match levelNamed? (Text.upperCase name) with
  | some threshold => .ok ⟨threshold, 1, form⟩
  | none => .error (.fault .noMember)

/-- The setup from a source. Where there is no configuration the level decides. -/
def setup (source : LoggingSource) (level : String) : Except Failure LoggingSetup :=
  match source with
  | .level => ofLevel level .console
  | .missingFile => ofLevel level .json
  | .file content =>
    match Yaml.read? content with
    | none => .error (.external "YAMLError" "")
    | some config =>
      match configured config with
      | .ok (threshold, handlers) => .ok ⟨threshold, handlers, .json⟩
      | .error f => .error (.fault f)

end Logging

end ClusterDiscovery
