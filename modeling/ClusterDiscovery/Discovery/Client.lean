import ClusterDiscovery.Discovery.Expansion
import ClusterDiscovery.ServiceFilter

/-! # Discovery client

A discovery client finds the instances of a service and the names of services. Every call reads
the cluster afresh. The secure ports and the configured filter are those of the moment when the
client was made; all other settings count as they are at the time of a call. -/

namespace ClusterDiscovery

open Datum

structure DiscoveryClient where
  settings : DiscoverySettings
  secure : SecurePorts
  filter : ServiceFilter

/-- Selects services: by the configured filter, by an expression, or by a test. -/
inductive ServicePredicate where
  | configured
  | expression (source : String)
  | test (holds : Datum → Except Failure Bool)

namespace DiscoveryClient

/-- A client with its settings. Secure ports that are given take the place of the configured
ones. -/
def make (settings : DiscoverySettings) (secure : Option SecurePorts) :
    Except Failure DiscoveryClient := do
  let filter ← ServiceFilter.ofExpression settings.filter
  return ⟨settings, secure.getD (.ofInts settings.knownSecurePorts), filter⟩

def describe : String := "Kubernetes Discovery Client"

def discoveryType : String := "kubernetes_services"

def subsetGroup (endpoints : Datum) (ownNamespace : String) : Except Failure SubsetGroup := do
  let reading : Except Fault (Option (Datum × Datum)) := do
    if endpoints.isNull then return none
    let subsets ← endpoints.optional "subsets"
    if subsets.isNull then return none
    let inNamespace ← endpoints.optional "namespace"
    return some (inNamespace.orElse (.text ownNamespace), subsets)
  match reading with
  | .error f => throw (.fault f)
  | .ok none => return ⟨ownNamespace, []⟩
  | .ok (some (inNamespace, subsets)) =>
    (SubsetGroup.ofFields [(.text "namespace", inNamespace), (.text "subsets", subsets)]).toExcept

variable {World : Type}

def expandGroups (reader : ClusterReader World) (client : DiscoveryClient) (name : Datum) :
    List SubsetGroup → Action World (List ServiceInstance)
  | [] => return []
  | group :: rest => do
    let first ← expand reader client.settings client.secure (.text group.inNamespace) name
      (.list group.subsets)
    return first ++ (← expandGroups reader client name rest)

/-- All instances of a service, in the order of namespaces, subsets and addresses. -/
def getInstances (client : DiscoveryClient) (reader : ClusterReader World) (name : Datum) :
    Action World (List ServiceInstance) := do
  if !name.truthy then throw (.invalidArgument (.text "service_id") "must not be empty")
  if !client.settings.enabled then return []
  let ownNamespace := reader.ownNamespace (← Action.getWorld)
  let endpoints ←
    if client.settings.allNamespaces then reader.listEndpointsEverywhere name
    else do pure [← reader.getEndpoints name (.text ownNamespace)]
  let groups ← Action.ofResult (endpoints.mapM fun e => subsetGroup e ownNamespace)
  let instances ← expandGroups reader client name groups
  Action.report (.info ("Resolved " ++ toString instances.length ++ " instances"))
  return instances

/-- The names of the services that pass a filter. The position is that in the listing. -/
def filteredNames (reader : ClusterReader World) (filter : ServiceFilter) (position : Nat) :
    List Datum → Action World (List Datum)
  | [] => return []
  | service :: rest => do
    let (outcome, log) := filter.accepts service
    log.forM Action.report
    Action.modifyWorld (reader.keepService position outcome.service)
    if ← Action.ofReading outcome.result then
      let name ← Action.ofReading (outcome.service.required "name")
      return name :: (← filteredNames reader filter (position + 1) rest)
    else filteredNames reader filter (position + 1) rest

/-- The names of the services for which a test holds. -/
def testedNames (holds : Datum → Except Failure Bool) : List Datum → Action World (List Datum)
  | [] => return []
  | service :: rest => do
    if ← Action.ofResult (holds service) then
      let name ← Action.ofReading (service.required "name")
      return name :: (← testedNames holds rest)
    else testedNames holds rest

/-- The names of the visible services that a predicate selects, in the order of the listing. A
blank expression stands for the configured filter. -/
def getServices (client : DiscoveryClient) (reader : ClusterReader World)
    (predicate : ServicePredicate) : Action World (List Datum) := do
  if !client.settings.enabled then return []
  let names ← match predicate with
    | .test holds => pure (testedNames holds)
    | .configured => pure (filteredNames reader client.filter 0)
    | .expression source =>
      match ServiceFilter.nonBlank source with
      | none => pure (filteredNames reader client.filter 0)
      | some source => do
        let filter ← Action.ofResult (ServiceFilter.ofExpression (some source))
        pure (filteredNames reader filter 0)
  let services ← reader.listServices client.settings.allNamespaces client.settings.labelsDatum
  let names ← names services
  Action.report (.debug ("Listed " ++ toString names.length ++ " of "
    ++ toString services.length ++ " services"))
  return names

end DiscoveryClient

end ClusterDiscovery
