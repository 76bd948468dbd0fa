import ClusterDiscovery.Client.Cluster
import ClusterDiscovery.Resource.Reading

/-! # Snapshots

A cluster in memory from a snapshot: a record with the endpoints, the services and the pods, and
perhaps the listings of endpoints that successive polls see. -/

namespace ClusterDiscovery

open Datum

namespace Cluster

/-- The resources of a list. What cannot be read as a resource is left out. -/
def resourcesOf {α : Type} (read : Datum → Except Fault α) (d : Datum) : List α :=
  match d with
  | .list objects => objects.filterMap fun object => (read object).toOption
  | _ => []

def scriptOf : Datum → Option (List (List Endpoints))
  | .list polls => some (polls.map (resourcesOf Endpoints.ofDatum?))
  | _ => none

def ofSnapshot (snapshot : List (Datum × Datum)) : Cluster :=
  let part (name : String) : Datum := (named? snapshot name).getD .null
  { endpoints := resourcesOf Endpoints.ofDatum? (part "endpoints")
    services := resourcesOf Service.ofDatum? (part "services")
    pods := resourcesOf (fun d => .ok (Pod.ofDatum d)) (part "pods")
    script := scriptOf (part "polls")
    interrupts := false
    failures := []
    loadFailure := none
    calls := []
    loads := [] }

end Cluster

end ClusterDiscovery
