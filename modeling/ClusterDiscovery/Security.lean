import ClusterDiscovery.Datum.Access
import ClusterDiscovery.Session

/-! # Secure ports

A port carries encrypted traffic when a label or an annotation of its service says so, or when it
is one of the known secure ports. -/

namespace ClusterDiscovery

open Datum

inductive SecureReason where
  | labelled | annotated | knownPort
deriving Repr, DecidableEq

def SecureReason.entry : SecureReason → LogEntry
  | .labelled => .debug "Service port is secure: 'secured' label is true"
  | .annotated => .debug "Service port is secure: 'secured' annotation is true"
  | .knownPort => .debug "Service port is secure: known https port"

/-- The values of the mark that mean yes. Letter case matters. -/
def affirmations : List String := ["true", "on", "yes", "1"]

structure SecurePorts where
  known : List Datum

namespace SecurePorts

def ofInts (ports : List Int) : SecurePorts := ⟨ports.map .int⟩

def standard : SecurePorts := ofInts [443, 8443]

/-- Known ports given as data; null stands for the standard ones. -/
def ofDatum (d : Datum) : Except Fault SecurePorts := do
  if d.isNull then return standard
  let known ← d.elements
  if areKeys known then return ⟨known⟩ else throw .wrongType

def marks (labelling : Datum) : Except Fault Bool := do
  let mark := match labelling.orElse (.map []) with
    | .map entries => .ok ((named? entries "secured").getD (.text "false"))
    | _ => .error Fault.noMember
  match ← mark with
  | .text s => return affirmations.contains s
  | mark => if mark.isKey then return false else throw .wrongType

def knows (secure : SecurePorts) (port : Datum) : Except Fault Bool := do
  if port.isNull then return false
  if port.isKey then return secure.known.any (same port) else throw .wrongType

/-- Why a port of a service with these labels and annotations is secure, if it is. -/
def reason? (secure : SecurePorts) (port labels annotations : Datum) :
    Except Fault (Option SecureReason) := do
  if ← marks labels then return some .labelled
  if ← marks annotations then return some .annotated
  if ← secure.knows port then return some .knownPort
  return none

end SecurePorts

end ClusterDiscovery
