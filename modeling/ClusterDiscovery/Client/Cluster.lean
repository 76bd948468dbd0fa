import ClusterDiscovery.Client.KubernetesClient
import ClusterDiscovery.Datum.Access
import ClusterDiscovery.Text.Pieces

/-! # Clusters in memory

A cluster that holds its resources in memory. It records every request, and single requests can
be made to fail. The listings of endpoints may be scripted, one for each request. -/

namespace ClusterDiscovery

open Datum

/-- A request with its arguments and its options, the latter in the order of their names. -/
structure ApiCall where
  method : String
  arguments : List Datum
  options : List (Datum × Datum)

structure Cluster where
  endpoints : List Endpoints
  services : List Service
  pods : List Pod
  /-- The listings of endpoints that are still to be served. Without a script the endpoints
  themselves are listed. -/
  script : Option (List (List Endpoints))
  /-- Whether the user asks to stop once the script has come to its end. -/
  interrupts : Bool
  /-- How the next requests of a method end, where they are not just answered. -/
  failures : List (String × List (Option Failure))
  /-- How every loading of a configuration ends, if it fails. -/
  loadFailure : Option Failure
  calls : List ApiCall
  loads : List ApiCall

namespace Cluster

/-- Takes the next failure of a method out of the plan. -/
def takeFailure (method : String) : List (String × List (Option Failure)) →
    Option Failure × List (String × List (Option Failure))
  | [] => (none, [])
  | (m, planned) :: rest =>
    if m == method then
      match planned with
      | [] => (none, (m, []) :: rest)
      | f :: others => (f, (m, others) :: rest)
    else
      let (f, rest) := takeFailure method rest
      (f, (m, planned) :: rest)

def planFailures (cluster : Cluster) (method : String) (more : List (Option Failure)) : Cluster :=
  let there := (cluster.failures.find? fun e => e.1 == method).isSome
  let failures :=
    if there then
      cluster.failures.map fun (m, planned) =>
        if m == method then (m, planned ++ more) else (m, planned)
    else cluster.failures ++ [(method, more)]
  { cluster with failures }

/-- Records a request, and fails if its failure is planned. -/
def request (method : String) (arguments : List Datum) (options : List (Datum × Datum)) :
    Action Cluster Unit := do
  let cluster ← Action.getWorld
  let (failure, failures) := takeFailure method cluster.failures
  Action.setWorld { cluster with
    calls := cluster.calls ++ [⟨method, arguments, options⟩], failures }
  if let some f := failure then throw f

/-- Records the loading of a configuration, and fails if loading fails. -/
def load (method : String) (arguments : List Datum) (options : List (Datum × Datum)) :
    Action Cluster Unit := do
  Action.modifyWorld fun cluster =>
    { cluster with loads := cluster.loads ++ [⟨method, arguments, options⟩] }
  if let some f := (← Action.getWorld).loadFailure then throw f

def notFound : Failure := .refused (.int 404) (.text "Not Found")

def isNamed (metadata : Option ObjectMeta) (name inNamespace : Datum) : Bool :=
  same (textOrNull (metadata.bind (·.name))) name
    && same (textOrNull (metadata.bind (·.inNamespace))) inNamespace

def isWithin (metadata : Option ObjectMeta) (inNamespace : Datum) : Bool :=
  same (textOrNull (metadata.bind (·.inNamespace))) inNamespace

def option (name : String) (value : Option String) : List (Datum × Datum) :=
  match value with
  | some v => [(.text name, .text v)]
  | none => []

def selectedName (selector : String) : String :=
  String.ofList (Text.partition ['='] selector.toList).2.2

def found {α : Type} (resource : Option α) : Action Cluster α :=
  match resource with
  | some r => pure r
  | none => throw notFound

def servicesWhere (cluster : Cluster) (inNamespace : Option Datum) (selector : Option String) :
    List Service :=
  cluster.services.filter fun s =>
    (match inNamespace with
      | some n => isWithin s.metadata n
      | none => true)
    && meets (s.metadata.bind (·.labels)) selector

/-- The next listing of the script, or the endpoints of a namespace. -/
def nextListing (inNamespace : Datum) : Action Cluster (List Endpoints) := do
  let cluster ← Action.getWorld
  match cluster.script with
  | none => return cluster.endpoints.filter fun e => isWithin e.metadata inNamespace
  | some (listing :: rest) =>
    Action.setWorld { cluster with script := some rest }
    return listing
  | some [] => if cluster.interrupts then throw .interrupted else return []

def isAtEnd (cluster : Cluster) : Bool :=
  match cluster.script with
  | some [] => true
  | _ => false

def api : ClusterApi Cluster where
  readEndpoints name inNamespace := do
    request "read_namespaced_endpoints" [name, inNamespace] []
    found ((← Action.getWorld).endpoints.find? fun e => isNamed e.metadata name inNamespace)
  listEndpoints inNamespace := do
    request "list_namespaced_endpoints" [inNamespace] []
    nextListing inNamespace
  listEndpointsEverywhere selector := do
    request "list_endpoints_for_all_namespaces" [] (option "field_selector" selector)
    return (← Action.getWorld).endpoints.filter fun e =>
      match selector with
      | some s => (e.metadata.bind (·.name)) == some (selectedName s)
      | none => true
  readService name inNamespace := do
    request "read_namespaced_service" [name, inNamespace] []
    found ((← Action.getWorld).services.find? fun s => isNamed s.metadata name inNamespace)
  listServices inNamespace selector := do
    request "list_namespaced_service" [inNamespace] (option "label_selector" selector)
    return servicesWhere (← Action.getWorld) (some inNamespace) selector
  listServicesEverywhere selector := do
    request "list_service_for_all_namespaces" [] (option "label_selector" selector)
    return servicesWhere (← Action.getWorld) none selector
  readPod name inNamespace := do
    request "read_namespaced_pod" [name, inNamespace] []
    found ((← Action.getWorld).pods.find? fun p => isNamed p.metadata name inNamespace)
  getResources := request "get_api_resources" [] []
  loadInCluster := load "load_incluster_config" [] []
  loadKubeconfigData data context :=
    load "load_kube_config_from_dict" [data] [(.text "context", context)]
  loadKubeconfig path context :=
    load "load_kube_config" [] (option "config_file" path ++ [(.text "context", context)])

end Cluster

end ClusterDiscovery
