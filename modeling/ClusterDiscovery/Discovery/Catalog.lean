import ClusterDiscovery.Datum.Access
import ClusterDiscovery.Session

/-! # Catalogs

A catalog holds mapped endpoints and services in memory, each under a namespace and a name, in
the order in which they were added. It records every read, and it can be made to fail. -/

namespace ClusterDiscovery

open Datum

structure CatalogKey where
  inNamespace : Datum
  name : Datum

def CatalogKey.same (a b : CatalogKey) : Bool :=
  a.inNamespace.same b.inNamespace && a.name.same b.name

/-- The key under which an object is stored when none is given. -/
def CatalogKey.of (object : Datum) : Except Fault CatalogKey := do
  return ⟨← object.required "namespace", ← object.required "name"⟩

abbrev CatalogEntry := CatalogKey × Datum

/-- A read of the catalog with its arguments. -/
structure CatalogRead where
  name : String
  arguments : List Datum

structure Catalog where
  ownNamespace : String
  endpoints : List CatalogEntry
  services : List CatalogEntry
  reads : List CatalogRead
  /-- How every read ends, if reads fail. -/
  failure : Option Failure
  /-- Where the services of the last listing are stored. -/
  listing : List Nat

namespace Catalog

def empty (ownNamespace : String) : Catalog := ⟨ownNamespace, [], [], [], none, []⟩

/-- Stores an object. A key that is there keeps its place. -/
def store (key : CatalogKey) (object : Datum) : List CatalogEntry → List CatalogEntry
  | [] => [(key, object)]
  | (k, o) :: rest =>
    if k.same key then (k, object) :: rest else (k, o) :: store key object rest

def putEndpoints (catalog : Catalog) (key : CatalogKey) (object : Datum) : Catalog :=
  { catalog with endpoints := store key object catalog.endpoints }

def putService (catalog : Catalog) (key : CatalogKey) (object : Datum) : Catalog :=
  { catalog with services := store key object catalog.services }

def find (key : CatalogKey) (entries : List CatalogEntry) : Datum :=
  ((entries.find? fun e => e.1.same key).map (·.2)).getD .null

/-- Records a read, which then fails if reads fail. -/
def recordRead (name : String) (arguments : List Datum) : Action Catalog Unit := do
  Action.modifyWorld fun catalog =>
    { catalog with reads := catalog.reads ++ [⟨name, arguments⟩] }
  if let some f := (← Action.getWorld).failure then throw f

def keyIn (catalog : Catalog) (inNamespace name : Datum) : CatalogKey :=
  ⟨inNamespace.orElse (.text catalog.ownNamespace), name⟩

def carries (service : Datum) (label : Datum × Datum) : Except Fault Bool := do
  match ← service.required "labels" with
  | .map labels => return ((lookup? labels label.1).getD .null).same label.2
  | _ => throw .noMember

def carriesAll (service : Datum) : List (Datum × Datum) → Except Fault Bool
  | [] => return true
  | label :: rest => do if ← carries service label then carriesAll service rest else return false

/-- The services to list, with their places. -/
def listed (catalog : Catalog) (everywhere : Bool) (labels : List (Datum × Datum))
    (place : Nat) : List CatalogEntry → Except Fault (List (Nat × Datum))
  | [] => return []
  | (key, service) :: rest => do
    let here := everywhere || key.inNamespace.same (.text catalog.ownNamespace)
    let found ← if here then carriesAll service labels else pure false
    let others ← listed catalog everywhere labels (place + 1) rest
    return if found then (place, service) :: others else others

def labelEntries : Datum → List (Datum × Datum)
  | .map entries => entries
  | _ => []

def reader : ClusterReader Catalog where
  ownNamespace catalog := catalog.ownNamespace
  getEndpoints name inNamespace := do
    recordRead "get_endpoints" [name, inNamespace]
    let catalog ← Action.getWorld
    return find (catalog.keyIn inNamespace name) catalog.endpoints
  listEndpointsEverywhere name := do
    recordRead "list_endpoints_for_all_namespaces" [name]
    let catalog ← Action.getWorld
    return (catalog.endpoints.filter fun e => name.isNull || e.1.name.same name).map (·.2)
  getService name inNamespace := do
    recordRead "get_service" [name, inNamespace]
    let catalog ← Action.getWorld
    return find (catalog.keyIn inNamespace name) catalog.services
  listServices everywhere labels := do
    recordRead "list_services" [.null, .bool everywhere, labels]
    let catalog ← Action.getWorld
    let found ← Action.ofReading
      (listed catalog everywhere (labelEntries labels) 0 catalog.services)
    Action.setWorld { catalog with listing := found.map (·.1) }
    return found.map (·.2)
  keepService position service catalog :=
    match catalog.listing[position]? with
    | none => catalog
    | some place =>
      { catalog with services := catalog.services.modify place fun e => (e.1, service) }

end Catalog

end ClusterDiscovery
