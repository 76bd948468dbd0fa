import ClusterDiscovery.Datum

/-! # Settings

What can be configured: the connection to the cluster, the discovery of services and the
metadata of instances. The default values are those of an empty environment. -/

namespace ClusterDiscovery

structure KubernetesSettings where
  kubeconfigPath : Option String := none
  defaultNamespace : String := "default"
  context : Option String := none
  /-- Use the service account of the pod instead of a kubeconfig. -/
  inCluster : Bool := false
deriving Repr, DecidableEq

structure MetadataSettings where
  addLabels : Bool := true
  labelsPrefix : Option String := none
  addAnnotations : Bool := true
  annotationsPrefix : Option String := none
  addPorts : Bool := true
  portsPrefix : Option String := some "port."
deriving Repr, DecidableEq

structure DiscoverySettings where
  enabled : Bool := true
  allNamespaces : Bool := false
  /-- The labels that a listed service has to carry. -/
  serviceLabels : List (String × String) := []
  /-- The port to take when endpoints expose several. -/
  primaryPortName : Option String := none
  /-- Ascending and without repetition. -/
  knownSecurePorts : List Int := [443, 8443]
  /-- The expression that selects the services to list. -/
  filter : Option String := none
  /-- Seconds between two polls of the catalog watch. -/
  watchDelay : Float := 30.0
  metadata : MetadataSettings := {}

/-- The labels of listed services as data. -/
def DiscoverySettings.labelsDatum (s : DiscoverySettings) : Datum :=
  .map (s.serviceLabels.map fun (k, v) => (.text k, .text v))

/-- How serious an event has to be to be logged. -/
inductive Severity where
  | debug | info | warning | error | critical
deriving Repr, DecidableEq

def Severity.name : Severity → String
  | .debug => "DEBUG"
  | .info => "INFO"
  | .warning => "WARNING"
  | .error => "ERROR"
  | .critical => "CRITICAL"

def Severity.all : List Severity := [.debug, .info, .warning, .error, .critical]

structure Settings where
  logLevel : Severity := .info
  kubernetes : KubernetesSettings := {}
  discovery : DiscoverySettings := {}

end ClusterDiscovery
