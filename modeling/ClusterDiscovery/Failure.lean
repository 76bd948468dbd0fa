import ClusterDiscovery.Datum
import ClusterDiscovery.Spelling

/-! # Failures

Everything that can end an operation of the library: failures of its own, failures of the cluster
and of the configuration, and faults of data. -/

namespace ClusterDiscovery

/-- What is wrong with one field of a settings or model object. -/
inductive FieldIssue where
  | missing | extraForbidden | frozen
  | boolParsing | boolType
  | textType | textUnicode
  | intParsing | intFromFloat | intType | finiteNumber
  | floatParsing | floatType
  | listType | setType | mapType | modelType
  | notAmongNames
  | badValue
deriving Repr, DecidableEq

inductive FieldStep where
  | field (name : String)
  | position (i : Nat)
deriving Repr, DecidableEq

structure FieldError where
  path : List FieldStep
  issue : FieldIssue
deriving Repr, DecidableEq

inductive VariableSource where
  | process | file
deriving Repr, DecidableEq

inductive Failure where
  /-- An argument of an operation is not acceptable. -/
  | invalidArgument (argument : Datum) (reason : String)
  /-- The configuration leaves a choice open. -/
  | illegalState (message : String) (details : List (Datum × Datum))
  /-- A read of the cluster could not be completed. -/
  | collaborator (resource reason : String) (status : Datum) (details : List (Datum × Datum))
  /-- A client could not be connected. -/
  | connection (client reason : String) (details : List (Datum × Datum))
  | configuration (message : String) (details : List (Datum × Datum))
  /-- A failure of discovery without a kind of its own. -/
  | general (message : String) (details : List (Datum × Datum))
  | validation (errors : List FieldError)
  /-- The value of a field cannot be decoded. -/
  | undecodable (field : String) (source : VariableSource)
  /-- The cluster's interface refused a request. -/
  | refused (status reason : Datum)
  /-- The configuration of the cluster's interface is not usable. -/
  | unloadable (reason : String)
  /-- A failure with a text and perhaps a status, as any collaborator may have one. -/
  | scripted (message : String) (status : Option Datum)
  /-- A failure of the surroundings, known by its kind. -/
  | external (kind message : String)
  /-- The user asked to stop. -/
  | interrupted
  | fault (f : Fault)

namespace Failure

def shown (d : Datum) : String :=
  match d.plainText with
  | .ok s => s
  | .error _ => ""

def sourceName : VariableSource → String
  | .process => "EnvSettingsSource"
  | .file => "DotEnvSettingsSource"

/-- What a failure says. Failures that are known by their kind only say what their origin did. -/
def message : Failure → String
  | .invalidArgument argument reason => "Invalid argument " ++ shown argument ++ ": " ++ reason
  | .illegalState message _ => message
  | .collaborator resource reason _ _ => "Failed to read " ++ resource ++ ": " ++ reason
  | .connection client reason _ => client ++ " connection failed: " ++ reason
  | .configuration message _ => message
  | .general message _ => message
  | .undecodable field source =>
    "error parsing value for field \"" ++ field ++ "\" from source \"" ++ sourceName source ++ "\""
  | .refused status reason => "(" ++ shown status ++ ")\nReason: " ++ shown reason ++ "\n"
  | .unloadable reason => reason
  | .scripted message _ => message
  | .external kind message => if kind == "KeyError" then Text.quoted message else message
  | .validation _ => ""
  | .interrupted => ""
  | .fault _ => ""

def details : Failure → List (Datum × Datum)
  | .invalidArgument argument _ => [(.text "argument", argument)]
  | .illegalState _ details => details
  | .collaborator _ _ _ details => details
  | .connection _ _ details => details
  | .configuration _ details => details
  | .general _ details => details
  | _ => []

/-- Whether a failure is one of discovery itself. -/
def isOwn : Failure → Bool
  | .invalidArgument .. => true
  | .illegalState .. => true
  | .collaborator .. => true
  | .connection .. => true
  | .configuration .. => true
  | .general .. => true
  | _ => false

def status? : Failure → Option Datum
  | .collaborator _ _ status _ => some status
  | .refused status _ => some status
  | .scripted _ status => status
  | _ => none

end Failure

end ClusterDiscovery
