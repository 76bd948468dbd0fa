import ClusterDiscovery.Discovery.Catalog
import ClusterDiscovery.Proofs.Reading
import ClusterDiscovery.Resource.Mapping

/-! # Mapped endpoints and services

The shapes on which the resolution of instances relies. Everything that a cluster serves has them
once it is mapped, and a catalog is expected to hold nothing else.
-/

namespace ClusterDiscovery

open Datum Resource

/-- An address with an IP. It may refer to a pod, and the pod may have an identifier. -/
structure MappedAddress (address : Datum) : Prop where
  mapping : address.IsMapping
  ip : (fieldOf address "ip").IsText
  ref : fieldOf address "target_ref" = .null ∨ (fieldOf address "target_ref").IsMapping ∧
    (fieldOf (fieldOf address "target_ref") "uid").TextOrNull

structure MappedPort (port : Datum) : Prop where
  mapping : port.IsMapping
  number : ∃ n, fieldOf port "port" = .int n
  name : (fieldOf port "name").TextOrNull

structure MappedSubset (subset : Datum) : Prop where
  record : subset.IsRecord
  addresses : (fieldOf subset "addresses").ListOf MappedAddress
  ports : (fieldOf subset "ports").ListOf MappedPort

structure MappedEndpoints (endpoints : Datum) : Prop where
  mapping : endpoints.IsMapping
  inNamespace : (fieldOf endpoints "namespace").TextOrNull
  subsets : (fieldOf endpoints "subsets").ListOf MappedSubset

structure MappedService (service : Datum) : Prop where
  mapping : service.IsMapping
  labels : (fieldOf service "labels").Labelling
  annotations : (fieldOf service "annotations").Labelling

/-- Every object of a catalog is mapped. -/
structure Catalog.Mapped (catalog : Catalog) : Prop where
  endpoints : ∀ entry ∈ catalog.endpoints, MappedEndpoints entry.2
  services : ∀ entry ∈ catalog.services, MappedService entry.2

/-! ## Mapping yields these shapes -/

theorem EndpointAddress.mapped_address (address : EndpointAddress) :
    MappedAddress address.mapped where
  mapping := .record _
  ip := ⟨address.ip, by simp [EndpointAddress.mapped, fieldOf_record]⟩
  ref := by
    cases href : address.targetRef with
    | none => exact .inl (by simp [EndpointAddress.mapped, fieldOf_record, href])
    | some ref =>
        refine .inr ?_
        simp only [EndpointAddress.mapped, fieldOf_record, href]
        exact ⟨.record _, by simpa [TargetRef.mapped, fieldOf_record] using .textOrNull ref.uid⟩

theorem ResourcePort.mapped_port (port : ResourcePort) : MappedPort port.mapped where
  mapping := .record _
  number := ⟨port.port, by simp [ResourcePort.mapped, fieldOf_record]⟩
  name := by simpa [ResourcePort.mapped, fieldOf_record] using .textOrNull port.name

theorem EndpointSubset.mapped_subset (subset : EndpointSubset) : MappedSubset subset.mapped where
  record := ⟨_, rfl⟩
  addresses := by
    simpa [EndpointSubset.mapped, fieldOf_record] using
      ListOf.map EndpointAddress.mapped_address (subset.addresses.getD [])
  ports := by
    simpa [EndpointSubset.mapped, fieldOf_record] using
      ListOf.map ResourcePort.mapped_port (subset.ports.getD [])

theorem Endpoints.mapped_endpoints (endpoints : Endpoints) : MappedEndpoints endpoints.mapped where
  mapping := .record _
  inNamespace := by
    simpa [Endpoints.mapped, fieldOf_record] using
      .textOrNull (endpoints.metadata.bind (·.inNamespace))
  subsets := by
    cases hsubsets : endpoints.subsets with
    | none => exact .inl (by simp [Endpoints.mapped, fieldOf_record, hsubsets])
    | some subsets =>
        simpa [Endpoints.mapped, fieldOf_record, hsubsets] using
          ListOf.map EndpointSubset.mapped_subset subsets

theorem textMapping_labelling (entries : Option (List (String × String))) :
    (textMapping entries).Labelling :=
  .inr ⟨_, rfl, textEntries_map _⟩

theorem Service.mapped_service {service : Service} {d : Datum} (h : service.mapped = .ok d) :
    MappedService d := by
  cases hmeta : service.metadata with
  | none => simp [Service.mapped, hmeta] at h
  | some metadata =>
      simp only [Service.mapped, hmeta, Except.ok.injEq] at h
      subst h
      refine ⟨.record _, ?_, ?_⟩
      · simpa [fieldOf_record] using textMapping_labelling metadata.labels
      · simpa [fieldOf_record] using textMapping_labelling metadata.annotations

/-! ## What a catalog finds -/

/-- An object that is found is stored; one that is not found is null. -/
theorem Catalog.find_mem (key : CatalogKey) (entries : List CatalogEntry) :
    find key entries = .null ∨ ∃ entry ∈ entries, entry.2 = find key entries := by
  cases hfound : entries.find? fun e => e.1.same key with
  | none => exact .inl (by simp [find, hfound])
  | some entry =>
      exact .inr ⟨entry, List.mem_of_find?_eq_some hfound, by simp [find, hfound]⟩

end ClusterDiscovery
