import ClusterDiscovery.Validation

/-! # Instances and events

What discovery produces: instances of services, groups of subsets by namespace, and heartbeats of
the catalog. -/

namespace ClusterDiscovery

open Datum

structure ServiceInstance where
  instanceId : Option String
  serviceId : String
  inNamespace : Option String
  host : String
  port : Int
  metadata : List (String × String)
  secure : Bool
deriving Repr, DecidableEq

namespace ServiceInstance

def scheme (i : ServiceInstance) : String := if i.secure then "https" else "http"

def uri (i : ServiceInstance) : String :=
  i.scheme ++ "://" ++ i.host ++ ":" ++ Number.intText i.port

/-- An instance from its fields. Further fields are skipped. -/
def ofFields (given : List (Datum × Datum)) : Checked ServiceInstance :=
  mk <$> optionalField given "instance_id" none (Check.nullable Check.text)
    <*> requiredField given "service_id" Check.text
    <*> optionalField given "namespace" none (Check.nullable Check.text)
    <*> requiredField given "host" Check.text
    <*> requiredField given "port" Check.int
    <*> optionalField given "metadata" [] (Check.mapping Check.text)
    <*> optionalField given "secure" false Check.bool

def metadataDatum (i : ServiceInstance) : Datum :=
  .map (i.metadata.map fun (k, v) => (.text k, .text v))

/-- Equality of instances. The order of the metadata does not count. -/
def same (i j : ServiceInstance) : Bool :=
  i.metadataDatum.same j.metadataDatum && { i with metadata := [] } == { j with metadata := [] }

def fields (i : ServiceInstance) : Datum :=
  record [("instance_id", textOrNull i.instanceId), ("service_id", .text i.serviceId),
    ("namespace", textOrNull i.inNamespace), ("host", .text i.host), ("port", .int i.port),
    ("metadata", i.metadataDatum), ("secure", .bool i.secure)]

end ServiceInstance

/-- An object that never changes rejects every assignment. -/
def assignFrozen {α : Type} (_object : α) (name : String) : Except Failure α :=
  .error (.validation [⟨[.field name], .frozen⟩])

/-- The endpoint subsets of a service in one namespace. -/
structure SubsetGroup where
  inNamespace : String
  subsets : List Datum

namespace SubsetGroup

def ofFields (given : List (Datum × Datum)) : Checked SubsetGroup :=
  let subsets : List (List (String × Datum)) → List Datum := fun groups => groups.map record
  mk <$> requiredField given "namespace" Check.text
    <*> (subsets <$> optionalField given "subsets" [] (Check.list (Check.mapping Check.anything)))

def fields (group : SubsetGroup) : List (Datum × Datum) :=
  [(.text "namespace", .text group.inNamespace), (.text "subsets", .list group.subsets)]

/-- The fields of a group after one of them was replaced by a value of any kind. -/
def assigned (group : SubsetGroup) (name : String) (value : Datum) :
    Except Failure (List (Datum × Datum)) :=
  match named? group.fields name with
  | some _ => .ok (put group.fields (.text name) value)
  | none => .error (.fault .badValue)

end SubsetGroup

/-- Tells that the pods behind the endpoints have changed. -/
structure Heartbeat where
  podNames : List String
deriving Repr, DecidableEq

namespace Heartbeat

def ofFields (given : List (Datum × Datum)) : Checked Heartbeat :=
  mk <$> optionalField given "pod_names" [] (Check.list Check.text)

def fields (event : Heartbeat) : Datum :=
  record [("pod_names", .list (event.podNames.map .text))]

end Heartbeat

end ClusterDiscovery
