import ClusterDiscovery.Datum.Access
import ClusterDiscovery.Expression.Compile
import ClusterDiscovery.Expression.Exchange
import ClusterDiscovery.Failure
import ClusterDiscovery.Session

/-! # Service filters

A filter decides from an expression which services are listed. The expression sees the parts of a
service by name. A service on which evaluation fails in one of the foreseen ways is not listed. -/

namespace ClusterDiscovery

open Expression

def loadValues : List (Datum × Datum) → Run (List (Datum × Value))
  | [] => return []
  | (key, d) :: rest => do
    let v ← load d
    return (key, v) :: (← loadValues rest)

/-- The entries of a service with their values in the store. Only mappings have entries. An
expression sees values of entries, never the service that holds them. -/
def loadService : Datum → Run (List (Datum × Value))
  | .map entries => loadValues entries
  | .undefined => throw (.undefinedUsed "")
  | _ => throw .noMember

/-- The service with these entries, as the store has them, to a given depth of nesting. -/
def unloadService (depth : Nat) (store : Store) (entries : List (Datum × Value)) : Datum :=
  .map (entries.map fun entry => (entry.1, unloadTo depth store entry.2))

def serviceEntry (entries : List (Datum × Value)) (name : String) : Value :=
  ((entries.find? fun entry => (Datum.text name).same entry.1).map (·.2)).getD .null

/-- An entry, or something empty in place of a false one. -/
def serviceEntryOr (entries : List (Datum × Value)) (name : String) (empty : Run Value) :
    Run Value := do
  let v := serviceEntry entries name
  if truthy (← get) v then return v else empty

/-- The names that an expression sees of a service. -/
def serviceScope (entries : List (Datum × Value)) : Run Scope := do
  let labels ← serviceEntryOr entries "labels" (Run.alloc (.map []))
  let annotations ← serviceEntryOr entries "annotations" (Run.alloc (.map []))
  let name := serviceEntry entries "name"
  let scopeNamespace := serviceEntry entries "namespace"
  let ports ← serviceEntryOr entries "ports" (Run.allocList [])
  let type := serviceEntry entries "type"
  let metadata ← Run.alloc (.map [(.text "name", name), (.text "namespace", scopeNamespace),
    (.text "labels", labels), (.text "annotations", annotations)])
  return [("name", name), ("namespace", scopeNamespace), ("labels", labels),
    ("annotations", annotations), ("ports", ports), ("type", type), ("metadata", metadata)]

/-- What a computation over a service gives, and the service as it is left. -/
structure Outcome (α : Type) where
  result : Except Fault α
  service : Datum

/-- Runs a computation on the entries of a service and takes the service out of the store
again, at least as deep as it was. -/
def onService {α : Type} (service : Datum) (run : List (Datum × Value) → Run α) : Outcome α :=
  let depth := max nestingLimit service.depth
  match (loadService service).run #[] with
  | .error f _ => ⟨.error f, service⟩
  | .ok entries store =>
    match (run entries).run store with
    | .ok a store => ⟨.ok a, unloadService depth store entries⟩
    | .error f store => ⟨.error f, unloadService depth store entries⟩

def scopeOf (service : Datum) : Except Fault Datum :=
  (onService service fun entries => do
    let scope ← serviceScope entries
    let store ← get
    return Datum.map (scope.map fun (name, v) => (.text name, unload store v))).result

/-- The value of a program on a service. An undefined value counts as null. -/
def valueOn (program : Program) (entries : List (Datum × Value)) : Run Value := do
  let scope ← serviceScope entries
  match ← evaluate scope program.body with
  | .undefined _ => return .null
  | v => return v

def evaluateOn (program : Program) (service : Datum) : Except Fault Datum :=
  (onService service fun entries => do
    let value ← valueOn program entries
    return unload (← get) value).result

def invalidExpression (text : String) (issue : SyntaxIssue) : Failure :=
  match issue with
  | .fault f => .fault f
  | issue => .configuration
      ("Invalid filter expression " ++ Text.quoted text ++ ": " ++ issue.message)
      [(.text "expression", .text text)]

/-- Compiles an expression. Blanks around it do not count. -/
def compileExpression (text : String) : Except Failure Program :=
  match Program.compile (Text.trim text) with
  | .ok program => .ok program
  | .error issue => .error (invalidExpression text issue)

/-- The faults of evaluation that mean that a service does not match. -/
def Fault.meansNoMatch : Fault → Bool
  | .wrongType | .noMember | .missingKey | .outOfRange | .badValue | .badEncoding _ => true
  | .undefinedUsed _ | .accessRefused _ | .unknownOperation _ | .badFilterArgument _ => true
  | _ => false

/-- A predicate over services: an expression, or none, which every service satisfies. -/
structure ServiceFilter where
  expression : Option String
  program : Option Program

namespace ServiceFilter

/-- A blank text is no expression. -/
def nonBlank (text : String) : Option String :=
  if (Text.trim text).isEmpty then none else some text

def ofExpression (expression : Option String) : Except Failure ServiceFilter :=
  match expression.bind nonBlank with
  | none => .ok ⟨none, none⟩
  | some text => do return ⟨some text, some (← compileExpression text)⟩

def describe (f : ServiceFilter) : String :=
  "ServiceFilter(" ++ (match f.expression with
    | none => "None"
    | some text => Text.quoted text) ++ ")"

def noMatch : LogEntry := .debug "Filter expression failed for service"

/-- Whether a service passes the filter, the service after the evaluation, and what was
reported. -/
def accepts (f : ServiceFilter) (service : Datum) : Outcome Bool × List LogEntry :=
  match f.program with
  | none => (⟨.ok true, service⟩, [])
  | some program =>
    let outcome := onService service fun entries => do
      let value ← valueOn program entries
      match value with
      | .null => return false
      | value => return truthy (← get) value
    match outcome.result with
    | .ok _ => (outcome, [])
    | .error fault =>
      if Fault.meansNoMatch fault then
        match service with
        | .map _ => (⟨.ok false, outcome.service⟩, [noMatch])
        | _ => (⟨.error .noMember, outcome.service⟩, [])
      else (outcome, [])

end ServiceFilter

end ClusterDiscovery
