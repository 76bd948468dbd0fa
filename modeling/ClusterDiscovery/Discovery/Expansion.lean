import ClusterDiscovery.Instance
import ClusterDiscovery.Metadata
import ClusterDiscovery.Ports
import ClusterDiscovery.Security
import ClusterDiscovery.Session

/-! # Expansion of subsets

The subsets of a service in one namespace become instances: one for every address of every
subset. An address that stands in two subsets gives two instances. -/

namespace ClusterDiscovery

open Datum

def expansionType : String := "kubernetes_instances"

/-- The service that stands in for one that does not exist. -/
def anonymousService (name : Datum) : Datum :=
  record [("name", name), ("labels", .map []), ("annotations", .map [])]

/-- What all instances of a service in one namespace have in common. -/
structure ServiceContext where
  name : Datum
  inNamespace : Datum
  labels : Datum
  annotations : Datum
  metadata : List (Datum × Datum)

def portList : Datum → Except Fault (List Datum)
  | .map _ => .error .missingKey
  | ports => ports.elements

def instanceAt (context : ServiceContext) (metadata : List (Datum × Datum)) (port : Datum)
    (secure : Bool) (address : Datum) : Except Failure ServiceInstance := do
  let reading : Except Fault (List (Datum × Datum)) := do
    let ref ← address.optional "target_ref"
    let id ← if ref.truthy then ref.optional "uid" else pure .null
    let host ← address.required "ip"
    let number ← port.required "port"
    return [(.text "instance_id", id), (.text "service_id", context.name),
      (.text "namespace", context.inNamespace), (.text "host", host), (.text "port", number),
      (.text "metadata", .map metadata), (.text "secure", .bool secure)]
  match reading with
  | .error f => throw (.fault f)
  | .ok fields => (ServiceInstance.ofFields fields).toExcept

variable {World : Type}

/-- The instances of one subset. A subset without addresses has none and needs no port. -/
def expandSubset (settings : DiscoverySettings) (secure : SecurePorts) (context : ServiceContext)
    (subset : Datum) : Action World (List ServiceInstance) := do
  let addresses ← Action.ofReading (subset.optional "addresses")
  if !addresses.truthy then return []
  let ports := (← Action.ofReading (subset.optional "ports")).orElse (.list [])
  let metadata := putAll context.metadata (← portMetadata ports settings.metadata)
  let port ← Action.ofResult
    (selectPort (← Action.ofReading (portList ports)) settings.primaryPortName)
  let number ← Action.ofReading (port.optional "port")
  let reason ← Action.ofReading (secure.reason? number context.labels context.annotations)
  if let some reason := reason then Action.report reason.entry
  Action.ofResult ((← Action.ofReading addresses.elements).mapM
    (instanceAt context metadata port reason.isSome))

def expandSubsets (settings : DiscoverySettings) (secure : SecurePorts)
    (context : ServiceContext) : List Datum → Action World (List ServiceInstance)
  | [] => return []
  | subset :: rest => do
    let first ← expandSubset settings secure context subset
    return first ++ (← expandSubsets settings secure context rest)

/-- The instances of a service in one namespace. The service itself is read once, and not at all
when there are no subsets. -/
def expand (reader : ClusterReader World) (settings : DiscoverySettings) (secure : SecurePorts)
    (inNamespace name subsets : Datum) : Action World (List ServiceInstance) := do
  if !subsets.truthy then return []
  let found ← reader.getService name inNamespace
  let service ←
    if found.isNull then do
      Action.report (.warning "Service not found for endpoints, using empty metadata")
      pure (anonymousService name)
    else pure found
  let labels := (← Action.ofReading (service.optional "labels")).orElse (.map [])
  let annotations := (← Action.ofReading (service.optional "annotations")).orElse (.map [])
  let metadata ← serviceMetadata labels annotations settings.metadata
  let instances ← expandSubsets settings secure ⟨name, inNamespace, labels, annotations, metadata⟩
    (← Action.ofReading subsets.elements)
  Action.report (.debug ("Expanded " ++ toString instances.length ++ " instances"))
  return instances

end ClusterDiscovery
