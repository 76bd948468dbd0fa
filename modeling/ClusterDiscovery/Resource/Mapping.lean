import ClusterDiscovery.Datum.Access
import ClusterDiscovery.Resource.Basic

/-! # Resources as plain records

Discovery works on plain records of a few fields. Only ready addresses are kept. A service or a
pod without metadata cannot be mapped. -/

namespace ClusterDiscovery

open Datum

/-- Labels or annotations; none are an empty mapping. -/
def textMapping (entries : Option (List (String × String))) : Datum :=
  .map ((entries.getD []).map fun (k, v) => (.text k, .text v))

def TargetRef.mapped (ref : TargetRef) : Datum :=
  record [("kind", textOrNull ref.kind), ("name", textOrNull ref.name),
    ("namespace", textOrNull ref.inNamespace), ("uid", textOrNull ref.uid)]

def EndpointAddress.mapped (address : EndpointAddress) : Datum :=
  record [("ip", .text address.ip), ("hostname", textOrNull address.hostname),
    ("node_name", textOrNull address.nodeName),
    ("target_ref", (address.targetRef.map TargetRef.mapped).getD .null)]

def ResourcePort.mapped (port : ResourcePort) : Datum :=
  record [("name", textOrNull port.name), ("port", .int port.port),
    ("protocol", textOrNull port.protocol)]

def EndpointSubset.mapped (subset : EndpointSubset) : Datum :=
  record [("addresses", .list ((subset.addresses.getD []).map EndpointAddress.mapped)),
    ("ports", .list ((subset.ports.getD []).map ResourcePort.mapped))]

def Endpoints.mapped (endpoints : Endpoints) : Datum :=
  record [("name", textOrNull (endpoints.metadata.bind (·.name))),
    ("namespace", textOrNull (endpoints.metadata.bind (·.inNamespace))),
    ("subsets", match endpoints.subsets with
      | some subsets => .list (subsets.map EndpointSubset.mapped)
      | none => .null)]

def Service.mapped (service : Service) : Except Fault Datum :=
  match service.metadata with
  | none => .error .noMember
  | some metadata => .ok (record [("name", textOrNull metadata.name),
      ("namespace", textOrNull metadata.inNamespace),
      ("labels", textMapping metadata.labels),
      ("annotations", textMapping metadata.annotations),
      ("type", textOrNull (service.spec.bind (·.type))),
      ("cluster_ip", textOrNull (service.spec.bind (·.clusterIp))),
      ("ports", .list (((service.spec.bind (·.ports)).getD []).map ResourcePort.mapped)),
      ("uid", textOrNull metadata.uid)])

def Pod.mapped (pod : Pod) : Except Fault Datum :=
  match pod.metadata with
  | none => .error .noMember
  | some metadata => .ok (record [("name", textOrNull metadata.name),
      ("namespace", textOrNull metadata.inNamespace),
      ("labels", textMapping metadata.labels),
      ("ip", textOrNull (pod.status.bind (·.podIp))),
      ("uid", textOrNull metadata.uid)])

def listed (d : Datum) (name : String) : Except Fault (List Datum) := do
  ((← d.optional name).orElse (.list [])).elements

def podName? (address : Datum) : Except Fault (Option Datum) := do
  let ref ← address.optional "target_ref"
  if !ref.truthy then return none
  let name ← ref.optional "name"
  return if name.truthy then some name else none

def subsetPodNames (subset : Datum) : Except Fault (List Datum) := do
  return (← (← listed subset "addresses").mapM podName?).filterMap id

/-- The names of the pods that mapped endpoints refer to, in their order and with repetitions. -/
def endpointPodNames (endpoints : List Datum) : Except Fault (List Datum) := do
  let subsets ← endpoints.mapM fun e => do
    return (← (← listed e "subsets").mapM subsetPodNames).flatten
  return subsets.flatten

end ClusterDiscovery
