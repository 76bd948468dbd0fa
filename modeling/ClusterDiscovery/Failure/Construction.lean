import ClusterDiscovery.Datum.Access
import ClusterDiscovery.Failure

/-! # Construction of failures

Every kind of failure of discovery has parameters, whose values may be given by position or by
name. -/

namespace ClusterDiscovery

inductive FailureKind where
  | general | invalidArgument | illegalState | collaborator | connection | configuration
deriving Repr, DecidableEq

namespace FailureKind

def required : FailureKind → List String
  | .invalidArgument => ["argument", "message"]
  | .collaborator => ["resource", "message"]
  | .connection => ["client_type", "message"]
  | _ => ["message"]

def extra : FailureKind → List String
  | .invalidArgument => []
  | .collaborator => ["status", "details"]
  | _ => ["details"]

def parameters (kind : FailureKind) : List String := kind.required ++ kind.extra

/-- The values of the parameters. No parameter is given twice, none is unknown, and none that is
required is left out. -/
def bind (kind : FailureKind) (given : List Datum) (named : List (String × Datum)) :
    Except Fault (List (String × Datum)) :=
  let open_ := kind.parameters.drop given.length
  let bound := kind.parameters.zip given ++ named
  if given.length > kind.parameters.length || named.any (fun e => !open_.contains e.1) then
    .error .wrongType
  else if kind.required.all fun name => bound.any fun e => e.1 == name then .ok bound
  else .error .wrongType

def detailsOf : Datum → List (Datum × Datum)
  | .map entries => entries
  | _ => []

/-- A failure of a kind from the values of its parameters. -/
def build (kind : FailureKind) (given : List Datum) (named : List (String × Datum)) :
    Except Fault Failure := do
  let bound ← kind.bind given named
  let value (name : String) : Datum :=
    ((bound.find? fun e => e.1 == name).map (·.2)).getD .null
  let shown (name : String) : String := Failure.shown (value name)
  let details := detailsOf (value "details")
  return match kind with
    | .general => .general (shown "message") details
    | .invalidArgument => .invalidArgument (value "argument") (shown "message")
    | .illegalState => .illegalState (shown "message") details
    | .collaborator => .collaborator (shown "resource") (shown "message") (value "status") details
    | .connection => .connection (shown "client_type") (shown "message") details
    | .configuration => .configuration (shown "message") details

end FailureKind

/-- The wider kinds that a failure belongs to as well. -/
inductive WiderKind where
  | discovery | badValue | badState
deriving Repr, DecidableEq

def Failure.widerKinds : Failure → List WiderKind
  | .invalidArgument .. => [.discovery, .badValue]
  | .illegalState .. => [.discovery, .badState]
  | f => if f.isOwn then [.discovery] else []

end ClusterDiscovery
