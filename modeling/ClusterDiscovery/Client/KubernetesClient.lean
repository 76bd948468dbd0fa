import ClusterDiscovery.Labels
import ClusterDiscovery.Resource.Mapping
import ClusterDiscovery.Retry
import ClusterDiscovery.Session
import ClusterDiscovery.Text.Pieces
import ClusterDiscovery.Text.Utf8
import ClusterDiscovery.Yaml.Reader

/-! # Kubernetes client

A client that reads endpoints, services and its own pod. Reads are repeated when they fail; what
the cluster's interface refuses becomes a failure of the collaborator, except that an object that
does not exist is null. -/

namespace ClusterDiscovery

open Datum

/-! ## Connections -/

structure Connection where
  name : String
  config : Datum
  isConnected : Bool

namespace Connection

/-- A client that is not connected yet. Without a name of its own it has that of its kind. -/
def make (kind : String) (config : Datum) (name : Option String) : Connection :=
  let name := match name with
    | some name => if name.isEmpty then kind else name
    | none => kind
  ⟨name, config, false⟩

def connected (c : Connection) : Connection := { c with isConnected := true }

def disconnected (c : Connection) : Connection := { c with isConnected := false }

end Connection

/-! ## The interface of a cluster

The requests that a client makes, and the ways to load the configuration of the interface. A
refused request is a failure with a status and a reason. -/

structure ClusterApi (World : Type) where
  readEndpoints : Datum → Datum → Action World Endpoints
  listEndpoints : Datum → Action World (List Endpoints)
  listEndpointsEverywhere : Option String → Action World (List Endpoints)
  readService : Datum → Datum → Action World Service
  listServices : Datum → Option String → Action World (List Service)
  listServicesEverywhere : Option String → Action World (List Service)
  readPod : Datum → Datum → Action World Pod
  getResources : Action World Unit
  loadInCluster : Action World Unit
  /-- Takes a kubeconfig that was read already, and a context of it. -/
  loadKubeconfigData : Datum → Datum → Action World Unit
  /-- Reads a kubeconfig, by default that of the user, and takes a context of it. -/
  loadKubeconfig : Option String → Datum → Action World Unit

/-! ## Clients -/

structure ServiceAccount where
  token : Option String
  certificate : Option String
  inNamespace : Option String
deriving Repr, DecidableEq

def ServiceAccount.absent : ServiceAccount := ⟨none, none, none⟩

def ServiceAccount.isUsable (account : ServiceAccount) : Bool :=
  account.token.isSome && account.certificate.isSome

structure KubernetesClient where
  connection : Connection
  kubeconfigPath : Option String
  context : Option String
  /-- A kubeconfig that takes the place of a file. -/
  kubeconfigData : Option (List UInt8)
  inCluster : Option Bool
  /-- The namespace that is read when none is given. -/
  ownNamespace : String
  /-- The name of the host, which in a pod is that of the pod. -/
  hostname : Option String
  account : ServiceAccount
  /-- Whether the client was connected before. -/
  hasApi : Bool

namespace KubernetesClient

def defaultNamespace : String := "default"

def configuredNamespace (config : Datum) : String :=
  match config with
  | .map entries =>
    match (named? entries "namespace").getD .null with
    | .text s => if s.isEmpty then defaultNamespace else s
    | _ => defaultNamespace
  | _ => defaultNamespace

def make (config : Datum) (kubeconfigPath context : Option String)
    (kubeconfigData : Option (List UInt8)) (inCluster : Option Bool) (hostname : Option String)
    (account : ServiceAccount) : KubernetesClient where
  connection := Connection.make "KubernetesClient" config none
  kubeconfigPath := kubeconfigPath
  context := context
  kubeconfigData := kubeconfigData
  inCluster := inCluster
  ownNamespace := configuredNamespace config
  hostname := hostname
  account := account
  hasApi := false

variable {World : Type}

def ofConfig (config : Datum) (kubeconfigData : Option (List UInt8)) (hostname : Option String)
    (account : ServiceAccount) : Action World KubernetesClient := do
  let entry (name : String) : Datum :=
    match config with
    | .map entries => (named? entries name).getD .null
    | _ => .null
  let inCluster := match config with
    | .map entries => match named? entries "in_cluster" with
      | some (.bool b) => some b
      | some _ => none
      | none => some false
    | _ => some false
  Action.report (.debug "Creating Kubernetes client")
  return make config (entry "kubeconfig_path").text? (entry "context").text? kubeconfigData
    inCluster hostname account

def nonEmpty (s : Option String) : Option String := s.filter fun s => !s.isEmpty

/-- The namespace of the surrounding pod, by default the one that is set already. -/
def podNamespace (client : KubernetesClient) : String :=
  (nonEmpty (client.account.inNamespace.map Text.trim)).getD client.ownNamespace

/-- The kubeconfig that bytes hold. -/
def readKubeconfig (bytes : List UInt8) : Except Failure Datum :=
  match Text.decodeUtf8 bytes with
  | .error message => .error (.external "UnicodeDecodeError" message)
  | .ok source =>
    match Yaml.read? source with
    | some d => .ok d
    | none => .error (.external "YAMLError" "")

def loadConfiguration (api : ClusterApi World) (client : KubernetesClient) :
    Action World KubernetesClient := do
  let context := textOrNull client.context
  if client.inCluster == some true then
    api.loadInCluster
    Action.report (.info "Loaded in-cluster configuration")
    return { client with ownNamespace := client.podNamespace }
  else match client.kubeconfigData.filter fun data => !data.isEmpty with
    | some data =>
      api.loadKubeconfigData (← Action.ofResult (readKubeconfig data)) context
      Action.report (.info "Loaded kubeconfig from provided data")
      return client
    | none =>
      match nonEmpty client.kubeconfigPath with
      | some path =>
        api.loadKubeconfig (some path) context
        Action.report (.info ("Loaded kubeconfig from " ++ path))
        return client
      | none =>
        api.loadKubeconfig none context
        Action.report (.info "Loaded default kubeconfig")
        return client

def connectionFailure (cause : Failure) : Failure :=
  match cause with
  | .interrupted => .interrupted
  | cause => .connection "Kubernetes" ("Connection failed: " ++ cause.message) []

def connect (api : ClusterApi World) (client : KubernetesClient) :
    Action World KubernetesClient := do
  match ← (client.loadConfiguration api).outcomeOf with
  | .error cause => throw (connectionFailure cause)
  | .ok client =>
    Action.report (.info "Kubernetes client connected")
    return { client with connection := client.connection.connected, hasApi := true }

def disconnect (client : KubernetesClient) : Action World KubernetesClient := do
  Action.report (.info "Kubernetes client disconnected")
  return { client with connection := client.connection.disconnected }

def checkHealth (api : ClusterApi World) (client : KubernetesClient) : Action World Bool := do
  if !client.connection.isConnected || !client.hasApi then return false
  match ← api.getResources.outcomeOf with
  | .ok () => return true
  | .error .interrupted => throw .interrupted
  | .error _ =>
    Action.report (.warning "Kubernetes health check failed")
    return false

variable {α : Type}

/-- The failure to read a resource at a place, from what a refusal says. -/
def unreadable (resource place : String) (status reason : Datum) : Failure :=
  .collaborator resource (place ++ Failure.shown reason) status []

/-- Makes a request. A refusal is a failure to read a resource at a place. -/
def ask (client : KubernetesClient) (resource place : String) (request : Action World α) :
    Action World α := do
  if !client.hasApi then throw (.fault .noMember)
  match ← request.outcomeOf with
  | .ok a => return a
  | .error (.refused status reason) => throw (unreadable resource place status reason)
  | .error f => throw f

/-- Whether a status says that an object does not exist. -/
def isAbsence (status : Datum) : Bool := status.same (.int 404)

/-- Makes a request for one object. An object that does not exist is null, which is reported. -/
def askOne (client : KubernetesClient) (resource place absence : String)
    (request : Action World Datum) : Action World Datum := do
  if !client.hasApi then throw (.fault .noMember)
  match ← request.outcomeOf with
  | .ok d => return d
  | .error (.refused status reason) =>
    if isAbsence status then
      Action.report (.debug absence)
      return .null
    else throw (unreadable resource place status reason)
  | .error f => throw f

def placeOf (inNamespace name : Datum) : String :=
  Failure.shown inNamespace ++ "/" ++ Failure.shown name ++ ": "

def namespaceOr (client : KubernetesClient) (inNamespace : Datum) : Datum :=
  inNamespace.orElse (.text client.ownNamespace)

def getEndpoints (api : ClusterApi World) (client : KubernetesClient) (name inNamespace : Datum) :
    Action World Datum :=
  let inNamespace := client.namespaceOr inNamespace
  retrying {} (client.askOne "endpoints" (placeOf inNamespace name) "Endpoints not found" do
    return (← api.readEndpoints name inNamespace).mapped)

/-- Reports how many objects a listing has, and gives it. -/
def reportListing (ending : String) (listing : List Datum) : Action World (List Datum) := do
  Action.report (.debug ("Listed " ++ toString listing.length ++ " " ++ ending))
  return listing

def listEndpoints (api : ClusterApi World) (client : KubernetesClient) (inNamespace : Datum) :
    Action World (List Datum) :=
  let inNamespace := client.namespaceOr inNamespace
  retrying {} do
    let listing ← client.ask "endpoints" ("namespace " ++ Failure.shown inNamespace ++ ": ")
      (api.listEndpoints inNamespace)
    reportListing "endpoints" (listing.map Endpoints.mapped)

/-- The endpoints of all namespaces, with a name if one is given. -/
def listEndpointsEverywhere (api : ClusterApi World) (client : KubernetesClient) (name : Datum) :
    Action World (List Datum) :=
  let selector := if name.truthy then some ("metadata.name=" ++ Failure.shown name) else none
  retrying {} do
    let listing ← client.ask "endpoints" "all namespaces: "
      (api.listEndpointsEverywhere selector)
    reportListing "endpoints across namespaces" (listing.map Endpoints.mapped)

/-- A service as a record; one without metadata cannot be mapped. -/
def mappedService (service : Service) : Action World Datum := Action.ofReading service.mapped

def getService (api : ClusterApi World) (client : KubernetesClient) (name inNamespace : Datum) :
    Action World Datum :=
  let inNamespace := client.namespaceOr inNamespace
  retrying {} (client.askOne "service" (placeOf inNamespace name) "Service not found" do
    mappedService (← api.readService name inNamespace))

/-- The services of a namespace or of all that carry the labels. -/
def listServices (api : ClusterApi World) (client : KubernetesClient) (inNamespace : Datum)
    (everywhere : Bool) (labels : Datum) : Action World (List Datum) :=
  retrying {} do
    let selector := (← Action.ofReading (labelSelector? labels)).filter fun s => !s.isEmpty
    let listing ← client.ask "services" ""
      (if everywhere then api.listServicesEverywhere selector
        else api.listServices (client.namespaceOr inNamespace) selector)
    reportListing "services" (← listing.mapM mappedService)

/-- The pod that the client runs in, if it does, by the name of the host. -/
def currentPod (api : ClusterApi World) (client : KubernetesClient) : Action World Datum := do
  match nonEmpty client.hostname with
  | none => return .null
  | some hostname =>
    if !client.account.isUsable then return .null
    let request := client.ask "pod" "" (api.readPod (.text hostname) (.text client.ownNamespace))
    match ← request.outcomeOf with
    | .ok pod => Action.ofReading pod.mapped
    | .error .interrupted => throw .interrupted
    | .error _ =>
      Action.report (.warning ("Failed to get pod with name " ++ hostname
        ++ "; are service account permissions missing?"))
      return .null

def isInCluster (api : ClusterApi World) (client : KubernetesClient) : Action World Bool :=
  return !(← client.currentPod api).isNull

/-- Connects a client for the time of an action. -/
def during (api : ClusterApi World) (client : KubernetesClient)
    (action : KubernetesClient → Action World α) : Action World α := do
  let client ← client.connect api
  let outcome ← (action client).outcomeOf
  let _ ← client.disconnect
  Action.ofResult outcome

/-- What discovery reads through the client. -/
def reader (api : ClusterApi World) (client : KubernetesClient) : ClusterReader World where
  ownNamespace _ := client.ownNamespace
  getEndpoints := client.getEndpoints api
  listEndpointsEverywhere := client.listEndpointsEverywhere api
  getService := client.getService api
  listServices everywhere labels := client.listServices api .null everywhere labels
  keepService _ _ world := world

end KubernetesClient

end ClusterDiscovery
