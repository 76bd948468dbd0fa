import ClusterDiscovery.Datum.Access
import ClusterDiscovery.Resource.Basic

/-! # Reading resources

Resources from data in the form that the cluster's interface uses. Fields that discovery does not
use are skipped. An address needs an IP and a port needs a number. -/

namespace ClusterDiscovery

open Datum

namespace Resource

def fieldOf (d : Datum) (name : String) : Datum :=
  match d with
  | .map entries => (named? entries name).getD .null
  | _ => .null

def textField (d : Datum) (name : String) : Option String := (fieldOf d name).text?

def textMap? : Datum → Option (List (String × String))
  | .map entries => some (entries.filterMap fun (k, v) =>
      match k, v with
      | .text k, .text v => some (k, v)
      | _, _ => none)
  | _ => none

def optionalObject {α : Type} (read : Datum → Except Fault α) : Datum → Except Fault (Option α)
  | .null => .ok none
  | d => some <$> read d

def optionalList {α : Type} (read : Datum → Except Fault α) :
    Datum → Except Fault (Option (List α))
  | .list items => some <$> items.mapM read
  | _ => .ok none

end Resource

open Resource

def ObjectMeta.ofDatum (d : Datum) : ObjectMeta where
  name := textField d "name"
  inNamespace := textField d "namespace"
  labels := textMap? (fieldOf d "labels")
  annotations := textMap? (fieldOf d "annotations")
  uid := textField d "uid"

def TargetRef.ofDatum (d : Datum) : TargetRef where
  kind := textField d "kind"
  name := textField d "name"
  inNamespace := textField d "namespace"
  uid := textField d "uid"

def EndpointAddress.ofDatum? (d : Datum) : Except Fault EndpointAddress := do
  let targetRef ← optionalObject (fun d => .ok (TargetRef.ofDatum d)) (fieldOf d "targetRef")
  match textField d "ip" with
  | none => throw .badValue
  | some ip => return ⟨ip, textField d "hostname", textField d "nodeName", targetRef⟩

def ResourcePort.ofDatum? (d : Datum) : Except Fault ResourcePort :=
  match fieldOf d "port" with
  | .int port => .ok ⟨textField d "name", port, textField d "protocol"⟩
  | _ => .error .badValue

def EndpointSubset.ofDatum? (d : Datum) : Except Fault EndpointSubset := do
  return {
    addresses := ← optionalList EndpointAddress.ofDatum? (fieldOf d "addresses")
    notReadyAddresses := ← optionalList EndpointAddress.ofDatum? (fieldOf d "notReadyAddresses")
    ports := ← optionalList ResourcePort.ofDatum? (fieldOf d "ports") }

def metadataOf (d : Datum) : Option ObjectMeta :=
  match fieldOf d "metadata" with
  | .null => none
  | metadata => some (ObjectMeta.ofDatum metadata)

def Endpoints.ofDatum? (d : Datum) : Except Fault Endpoints := do
  return ⟨metadataOf d, ← optionalList EndpointSubset.ofDatum? (fieldOf d "subsets")⟩

def ServiceSpec.ofDatum? (d : Datum) : Except Fault ServiceSpec := do
  return {
    type := textField d "type"
    clusterIp := textField d "clusterIP"
    ports := ← optionalList ResourcePort.ofDatum? (fieldOf d "ports") }

def Service.ofDatum? (d : Datum) : Except Fault Service := do
  return ⟨metadataOf d, ← optionalObject ServiceSpec.ofDatum? (fieldOf d "spec")⟩

def Pod.ofDatum (d : Datum) : Pod where
  metadata := metadataOf d
  status := match fieldOf d "status" with
    | .null => none
    | status => some ⟨textField status "podIP"⟩

end ClusterDiscovery
