import ClusterDiscovery.Client.Snapshot
import ClusterDiscovery.CommandLine.Program
import ClusterDiscovery.Json.Reader

/-! # Command line

Runs a command line against a snapshot of a cluster. The snapshot is a JSON file that a variable
of the environment names; the variables file is that of the working directory. -/

namespace ClusterDiscovery.Main

def knownVariables : List String :=
  ["K8S_KUBECONFIG_PATH", "K8S_NAMESPACE", "K8S_CONTEXT", "K8S_IN_CLUSTER", "KUBERNETES",
    "DISCOVERY", "DISCOVERY_ENABLED", "DISCOVERY_ALL_NAMESPACES", "DISCOVERY_SERVICE_LABELS",
    "DISCOVERY_PRIMARY_PORT_NAME", "DISCOVERY_KNOWN_SECURE_PORTS", "DISCOVERY_FILTER",
    "DISCOVERY_CATALOG_SERVICES_WATCH_DELAY", "DISCOVERY_METADATA",
    "DISCOVERY_METADATA_ADD_LABELS", "DISCOVERY_METADATA_LABELS_PREFIX",
    "DISCOVERY_METADATA_ADD_ANNOTATIONS", "DISCOVERY_METADATA_ANNOTATIONS_PREFIX",
    "DISCOVERY_METADATA_ADD_PORTS", "DISCOVERY_METADATA_PORTS_PREFIX", "LOG_LEVEL", "HOSTNAME"]

def snapshotVariable : String := "CLUSTER_SNAPSHOT"

def fileText? (path : String) : IO (Option String) := do
  try return some (← IO.FS.readFile path) catch _ => return none

def environment : IO Environment := do
  let values ← knownVariables.filterMapM fun name => do
    return (← IO.getEnv name).map fun value => (name, value)
  return ⟨values, ← fileText? ".env"⟩

def cluster : IO Cluster := do
  let some path ← IO.getEnv snapshotVariable | return .ofSnapshot []
  let some content ← fileText? path | return .ofSnapshot []
  match Json.read? content with
  | some (.map entries) => return .ofSnapshot entries
  | _ => return .ofSnapshot []

end ClusterDiscovery.Main

open ClusterDiscovery ClusterDiscovery.Main in
/-- Runs the words of the command line and prints what they ask for. -/
def main (words : List String) : IO UInt32 := do
  let cluster ← cluster
  let around := cluster.surroundings (← environment) .absent
  let ending := match (runProgram around words).runOn (Session.start cluster) with
    | (.ok ending, _) => ending
    | (.error failure, _) => .ofFailure failure false
  let output ← IO.getStdout
  let errorOutput ← IO.getStderr
  output.putStr ending.output
  errorOutput.putStr ending.errorOutput
  if let some failure := ending.escaped then errorOutput.putStr (line failure.message)
  return ending.exitCode.toUInt32
