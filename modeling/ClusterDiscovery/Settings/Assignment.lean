import ClusterDiscovery.Datum.Access
import ClusterDiscovery.Failure
import ClusterDiscovery.Number.Binary64
import ClusterDiscovery.Settings.Basic
import ClusterDiscovery.Validation

/-! # Assignment of settings

Settings of a living client can be changed one by one. The new value is not checked again and is
taken to be of the kind of the field. A path that names no field is an error. -/

namespace ClusterDiscovery

open Datum

def labelsOf : Datum → List (String × String)
  | .map entries => entries.filterMap fun (k, v) => do return (← k.text?, ← v.text?)
  | _ => []

/-- Ports given as data, in ascending order. -/
def portsOf (d : Datum) : List Int :=
  match d with
  | .list items => (items.filterMap fun i => match i with
      | .int port => some port
      | _ => none).foldl (fun set i => Check.insertAscending i set) []
  | _ => []

def secondsOf : Datum → Float
  | .float x => x
  | .int i => Number.ofInt i
  | _ => 0.0

def MetadataSettings.assign (s : MetadataSettings) (field : String) (value : Datum) :
    Except Failure MetadataSettings :=
  match field with
  | "add_labels" => .ok { s with addLabels := value.truthy }
  | "labels_prefix" => .ok { s with labelsPrefix := value.text? }
  | "add_annotations" => .ok { s with addAnnotations := value.truthy }
  | "annotations_prefix" => .ok { s with annotationsPrefix := value.text? }
  | "add_ports" => .ok { s with addPorts := value.truthy }
  | "ports_prefix" => .ok { s with portsPrefix := value.text? }
  | _ => .error (.fault .badValue)

def DiscoverySettings.assign (s : DiscoverySettings) (path : List String) (value : Datum) :
    Except Failure DiscoverySettings :=
  match path with
  | ["enabled"] => .ok { s with enabled := value.truthy }
  | ["all_namespaces"] => .ok { s with allNamespaces := value.truthy }
  | ["service_labels"] => .ok { s with serviceLabels := labelsOf value }
  | ["primary_port_name"] => .ok { s with primaryPortName := value.text? }
  | ["known_secure_ports"] => .ok { s with knownSecurePorts := portsOf value }
  | ["filter"] => .ok { s with filter := value.text? }
  | ["catalog_services_watch_delay"] => .ok { s with watchDelay := secondsOf value }
  | ["metadata", field] => do return { s with metadata := ← s.metadata.assign field value }
  | _ => .error (.fault .badValue)

end ClusterDiscovery
