import ClusterDiscovery.Proofs.Heartbeats
import ClusterDiscovery.Proofs.Namespaces
import Mathlib.Data.List.Forall2

/-! # The fields that count

Of what a cluster serves, instances depend on a few fields and heartbeats on fewer. All other
fields can be blanked out without any effect on an answer, so two clusters that differ in those
alone cannot be told apart. Addresses that are not ready are among the fields that do not count.
-/

namespace ClusterDiscovery

open Datum Resource

/-! ## Resources without the fields that do not count -/

def EndpointAddress.forInstances (address : EndpointAddress) : EndpointAddress :=
  ⟨address.ip, none, none, address.targetRef.map fun ref => ⟨none, none, none, ref.uid⟩⟩

def ResourcePort.forInstances (port : ResourcePort) : ResourcePort := ⟨port.name, port.port, none⟩

def EndpointSubset.forInstances (subset : EndpointSubset) : EndpointSubset :=
  ⟨subset.addresses.map (List.map EndpointAddress.forInstances), none,
    subset.ports.map (List.map ResourcePort.forInstances)⟩

def Endpoints.forInstances (endpoints : Endpoints) : Endpoints :=
  ⟨endpoints.metadata.map fun m => ⟨m.name, m.inNamespace, none, none, none⟩,
    endpoints.subsets.map (List.map EndpointSubset.forInstances)⟩

def Service.forInstances (service : Service) : Service :=
  ⟨service.metadata.map fun m => ⟨m.name, m.inNamespace, m.labels, m.annotations, none⟩, none⟩

def EndpointAddress.forPods (address : EndpointAddress) : EndpointAddress :=
  ⟨"", none, none, address.targetRef.map fun ref => ⟨none, ref.name, none, none⟩⟩

def EndpointSubset.forPods (subset : EndpointSubset) : EndpointSubset :=
  ⟨subset.addresses.map (List.map EndpointAddress.forPods), none, none⟩

def Endpoints.forPods (endpoints : Endpoints) : Endpoints :=
  ⟨none, endpoints.subsets.map (List.map EndpointSubset.forPods)⟩

/-- The addresses behind endpoints that are ready, in their order. -/
def readyAddresses (endpoints : List Endpoints) : List EndpointAddress :=
  endpoints.flatMap fun e => (e.subsets.getD []).flatMap fun s => s.addresses.getD []

theorem getD_map_nil {α β : Type} (f : α → β) (xs : Option (List α)) :
    (xs.map (List.map f)).getD [] = (xs.getD []).map f := by
  cases xs <;> rfl

/-! ## Fields of mapped resources -/

theorem Endpoints.mapped_subsets (endpoints : Endpoints) :
    (fieldOf endpoints.mapped "subsets").items =
      (endpoints.subsets.getD []).map EndpointSubset.mapped := by
  obtain ⟨metadata, subsets⟩ := endpoints
  cases subsets <;> rfl

theorem EndpointSubset.mapped_addresses (subset : EndpointSubset) :
    fieldOf subset.mapped "addresses" =
      .list ((subset.addresses.getD []).map EndpointAddress.mapped) := rfl

theorem EndpointSubset.mapped_ports (subset : EndpointSubset) :
    fieldOf subset.mapped "ports" =
      .list ((subset.ports.getD []).map ResourcePort.mapped) := rfl

theorem EndpointAddress.mapped_uid (address : EndpointAddress) :
    fieldOf (fieldOf address.mapped "target_ref") "uid" =
      textOrNull (address.targetRef.bind (·.uid)) := by
  have hfield : fieldOf address.mapped "target_ref" =
      (address.targetRef.map TargetRef.mapped).getD .null := rfl
  rw [hfield]
  cases address.targetRef <;> rfl

/-! ## One subset -/

/-- The choice of a port depends on the names of the ports alone. -/
theorem indexOfPort?_map_congr {α : Type} {f g : α → Datum}
    (h : ∀ x, (f x).optional "name" = (g x).optional "name") (wanted : String) (xs : List α) :
    indexOfPort? wanted (xs.map f) = indexOfPort? wanted (xs.map g) := by
  induction xs with
  | nil => rfl
  | cons x xs ih =>
      have hkey : portKey (f x) = portKey (g x) := by
        unfold portKey
        rw [h x]
      simp only [List.map_cons, indexOfPort?, hkey, ih]

theorem choosePort_map_congr {α : Type} {f g : α → Datum}
    (h : ∀ x, (f x).optional "name" = (g x).optional "name") (xs : List α)
    (primary : Option String) :
    choosePort (xs.map f) primary = choosePort (xs.map g) primary := by
  match xs, primary with
  | [], _ => rfl
  | [_], _ => rfl
  | _ :: _ :: _, none => rfl
  | x :: y :: rest, some name =>
      have hindex := indexOfPort?_map_congr h (Text.lowerCase name) (x :: y :: rest)
      have hnames : ((x :: y :: rest).map f).mapM (fun port => port.optional "name") =
          ((x :: y :: rest).map g).mapM fun port => port.optional "name" := by
        rw [List.mapM_map, List.mapM_map]
        exact congrArg (fun k => (x :: y :: rest).mapM k) (funext h)
      simp only [List.map_cons] at hindex hnames
      unfold choosePort
      simp only [List.map_cons, hindex, hnames]

/-- What is made of the chosen port, when it can be made of either list alike. -/
theorem selectPort_map_congr {α β : Type} {f g : α → Datum}
    (h : ∀ x, (f x).optional "name" = (g x).optional "name") (xs : List α)
    (primary : Option String) (use : Datum → β) (huse : ∀ x, use (f x) = use (g x)) :
    (selectPort (xs.map f) primary).map use = (selectPort (xs.map g) primary).map use := by
  unfold selectPort
  rw [choosePort_map_congr h xs primary]
  cases hchoice : choosePort (xs.map g) primary with
  | error e => rfl
  | ok i =>
      have hi : i < xs.length := by simpa using choosePort_lt hchoice
      simp [Except.map, List.getD, List.getElem?_eq_getElem hi, huse]

theorem namedPorts_forInstances (ports : List ResourcePort) :
    namedPorts (.list ((ports.map ResourcePort.forInstances).map ResourcePort.mapped)) =
      namedPorts (.list (ports.map ResourcePort.mapped)) := by
  have hone : ∀ port : ResourcePort,
      namedPort? port.forInstances.mapped = namedPort? port.mapped := fun _ => rfl
  have helements : ∀ items : List Datum,
      ((Datum.list items).orElse (.list [])).elements = .ok items := by
    intro items
    cases items <;> rfl
  unfold namedPorts
  rw [helements, helements, List.map_map]
  simp only [bind, Except.bind, List.mapM_map, Function.comp_def, hone]

/-- A subset has the same instances without the fields that do not count. -/
theorem subsetInstances_forInstances (settings : DiscoverySettings) (secure : SecurePorts)
    (name inNamespace : String) (service : Datum) (subset : EndpointSubset) :
    subsetInstances settings secure name inNamespace service subset.forInstances.mapped =
      subsetInstances settings secure name inNamespace service subset.mapped := by
  have haddress : ∀ (metadata : List (Datum × Datum)) (port : Datum) (isSecure : Bool)
      (address : EndpointAddress),
      instanceFields name inNamespace metadata port isSecure address.forInstances.mapped =
        instanceFields name inNamespace metadata port isSecure address.mapped := by
    intro metadata port isSecure address
    have huid : address.forInstances.targetRef.bind (·.uid) =
        address.targetRef.bind (·.uid) := by
      unfold EndpointAddress.forInstances
      cases address.targetRef <;> rfl
    unfold instanceFields
    rw [EndpointAddress.mapped_uid, EndpointAddress.mapped_uid, huid]
    rfl
  have hmetadata : composedMetadata (fieldOf service "labels") (fieldOf service "annotations")
      (fieldOf subset.forInstances.mapped "ports") settings.metadata =
      composedMetadata (fieldOf service "labels") (fieldOf service "annotations")
        (fieldOf subset.mapped "ports") settings.metadata := by
    rw [composedMetadata_eq, composedMetadata_eq, EndpointSubset.mapped_ports,
      EndpointSubset.mapped_ports]
    unfold portContribution EndpointSubset.forInstances
    rw [getD_map_nil, namedPorts_forInstances]
  have hport := fun metadata => selectPort_map_congr
    (f := fun port : ResourcePort => port.forInstances.mapped) (g := ResourcePort.mapped)
    (fun _ => rfl) (subset.ports.getD []) settings.primaryPortName
    (fun port => (subset.addresses.getD []).map fun address =>
      instanceFields name inNamespace metadata port (portSecure secure service port) address.mapped)
    fun _ => rfl
  unfold subsetInstances
  rw [hmetadata, EndpointSubset.mapped_addresses, EndpointSubset.mapped_addresses,
    EndpointSubset.mapped_ports, EndpointSubset.mapped_ports]
  simp only [items, EndpointSubset.forInstances, getD_map_nil, List.map_map, List.isEmpty_map,
    Function.comp_def, haddress]
  split
  · rfl
  · exact bind_congr hport

/-! ## Catalogs of resources -/

namespace Catalog

/-- Stores objects one after the other, each under its own key. -/
def stocked : List Datum → List CatalogEntry → Except Fault (List CatalogEntry)
  | [], stored => .ok stored
  | object :: rest, stored => do stocked rest (store (← CatalogKey.of object) object stored)

/-- A catalog of what a cluster serves. -/
def ofResources (ownNamespace : String) (endpoints : List Endpoints) (services : List Service) :
    Except Fault Catalog := do
  let endpoints ← stocked (endpoints.map Endpoints.mapped) []
  let services ← stocked (← services.mapM Service.mapped) []
  return { empty ownNamespace with endpoints, services }

/-- The same keys in the same order, with related objects. -/
def Paired (R : Datum → Datum → Prop) : List CatalogEntry → List CatalogEntry → Prop :=
  List.Forall₂ fun x y => x.1 = y.1 ∧ R x.2 y.2

variable {R : Datum → Datum → Prop} {first second : List CatalogEntry}

theorem Paired.store (h : Paired R first second) (key : CatalogKey) {o o' : Datum}
    (ho : R o o') : Paired R (store key o first) (store key o' second) := by
  induction h with
  | nil => exact .cons ⟨rfl, ho⟩ .nil
  | @cons x y xs ys hxy hrest ih =>
      obtain ⟨k, d⟩ := x
      obtain ⟨k', d'⟩ := y
      obtain ⟨rfl, hd⟩ : k = k' ∧ R d d' := hxy
      unfold Catalog.store
      split
      · exact .cons ⟨rfl, ho⟩ hrest
      · exact .cons ⟨rfl, hd⟩ ih

theorem Paired.find (h : Paired R first second) (key : CatalogKey) :
    (find key first = .null ∧ find key second = .null) ∨ R (find key first) (find key second) := by
  induction h with
  | nil => exact .inl ⟨rfl, rfl⟩
  | @cons x y xs ys hxy hrest ih =>
      unfold Catalog.find at ih ⊢
      rw [List.find?_cons, List.find?_cons, hxy.1]
      cases y.1.same key with
      | true => exact .inr hxy.2
      | false => exact ih

theorem Paired.filter (h : Paired R first second) (holds : CatalogKey → Bool) :
    List.Forall₂ R ((first.filter fun e => holds e.1).map (·.2))
      ((second.filter fun e => holds e.1).map (·.2)) := by
  induction h with
  | nil => exact .nil
  | @cons x y xs ys hxy hrest ih =>
      rw [List.filter_cons, List.filter_cons, hxy.1]
      split
      · exact .cons hxy.2 ih
      · exact ih

/-- Objects with the same keys are stored in the same places. -/
theorem stocked_paired {objects objects' : List Datum} (hobjects : List.Forall₂ R objects objects')
    (hkey : ∀ o o', R o o' → ∃ key, CatalogKey.of o = .ok key ∧ CatalogKey.of o' = .ok key)
    (h : Paired R first second) :
    ∃ stored stored', stocked objects first = .ok stored ∧ stocked objects' second = .ok stored' ∧
      Paired R stored stored' := by
  induction hobjects generalizing first second with
  | nil => exact ⟨first, second, rfl, rfl, h⟩
  | @cons o o' rest rest' ho hrest ih =>
      obtain ⟨key, hk, hk'⟩ := hkey o o' ho
      simp only [stocked, hk, hk']
      exact ih (h.store key ho)

/-- Nothing else is stored than what is given. -/
theorem mem_stocked {objects : List Datum} {stored : List CatalogEntry}
    (h : stocked objects first = .ok stored) {entry : CatalogEntry} (hentry : entry ∈ stored) :
    entry ∈ first ∨ entry.2 ∈ objects := by
  induction objects generalizing first with
  | nil =>
      cases h
      exact .inl hentry
  | cons object rest ih =>
      obtain ⟨key, -, h⟩ := bind_eq_ok h
      rcases ih h with hmem | hmem
      · rcases mem_store hmem with hold | ⟨hnew, -⟩
        · exact .inl hold
        · exact .inr (hnew ▸ List.mem_cons_self)
      · exact .inr (List.mem_cons_of_mem _ hmem)

theorem ofResources_holds {ownNamespace : String} {endpoints : List Endpoints}
    {services : List Service} {catalog : Catalog}
    (h : ofResources ownNamespace endpoints services = .ok catalog) :
    catalog.ownNamespace = ownNamespace ∧ catalog.failure = none ∧
      (∀ entry ∈ catalog.endpoints, ∃ e ∈ endpoints, e.mapped = entry.2) ∧
      ∀ entry ∈ catalog.services, ∃ s ∈ services, s.mapped = .ok entry.2 := by
  unfold ofResources at h
  obtain ⟨stored, hendpoints, h⟩ := bind_eq_ok h
  obtain ⟨objects, hmapped, h⟩ := bind_eq_ok h
  obtain ⟨held, hservices, h⟩ := bind_eq_ok h
  cases h
  refine ⟨rfl, rfl, fun entry hentry => ?_, fun entry hentry => ?_⟩
  · have hobject := (mem_stocked hendpoints hentry).resolve_left List.not_mem_nil
    exact List.mem_map.mp hobject
  · have hobject := (mem_stocked hservices hentry).resolve_left List.not_mem_nil
    exact mem_of_mapM_eq_ok hmapped hobject

theorem ofResources_mapped {ownNamespace : String} {endpoints : List Endpoints}
    {services : List Service} {catalog : Catalog}
    (h : ofResources ownNamespace endpoints services = .ok catalog) : catalog.Mapped := by
  obtain ⟨-, -, hendpoints, hservices⟩ := ofResources_holds h
  constructor
  · intro entry hentry
    obtain ⟨e, -, he⟩ := hendpoints entry hentry
    exact he ▸ e.mapped_endpoints
  · intro entry hentry
    obtain ⟨s, -, hs⟩ := hservices entry hentry
    exact Service.mapped_service hs

/-- Endpoints, and the same without the fields that do not count. -/
def EndpointsTrimmed (d d' : Datum) : Prop :=
  ∃ e : Endpoints, d = e.mapped ∧ d' = e.forInstances.mapped

def ServiceTrimmed (d d' : Datum) : Prop :=
  ∃ s : Service, s.mapped = .ok d ∧ s.forInstances.mapped = .ok d'

theorem EndpointsTrimmed.key {d d' : Datum} (h : EndpointsTrimmed d d') :
    ∃ key, CatalogKey.of d = .ok key ∧ CatalogKey.of d' = .ok key := by
  obtain ⟨⟨metadata, subsets⟩, rfl, rfl⟩ := h
  cases metadata with
  | none => exact ⟨⟨.null, .null⟩, rfl, rfl⟩
  | some m => exact ⟨⟨textOrNull m.inNamespace, textOrNull m.name⟩, rfl, rfl⟩

theorem ServiceTrimmed.key {d d' : Datum} (h : ServiceTrimmed d d') :
    ∃ key, CatalogKey.of d = .ok key ∧ CatalogKey.of d' = .ok key := by
  obtain ⟨⟨metadata, spec⟩, hd, hd'⟩ := h
  cases metadata with
  | none => cases hd
  | some m =>
      cases hd
      cases hd'
      exact ⟨⟨textOrNull m.inNamespace, textOrNull m.name⟩, rfl, rfl⟩

theorem ServiceTrimmed.fields {d d' : Datum} (h : ServiceTrimmed d d') :
    fieldOf d "labels" = fieldOf d' "labels" ∧
      fieldOf d "annotations" = fieldOf d' "annotations" := by
  obtain ⟨⟨metadata, spec⟩, hd, hd'⟩ := h
  cases metadata with
  | none => cases hd
  | some m =>
      cases hd
      cases hd'
      exact ⟨rfl, rfl⟩

/-- Catalogs with the same keys, one of them without the fields that do not count. -/
structure Trims (catalog trimmed : Catalog) : Prop where
  own : catalog.ownNamespace = trimmed.ownNamespace
  endpoints : Paired EndpointsTrimmed catalog.endpoints trimmed.endpoints
  services : Paired ServiceTrimmed catalog.services trimmed.services

theorem ofResources_trims (ownNamespace : String) (endpoints : List Endpoints)
    {services : List Service} (present : ∀ s ∈ services, s.metadata.isSome) :
    ∃ catalog trimmed, ofResources ownNamespace endpoints services = .ok catalog ∧
      ofResources ownNamespace (endpoints.map Endpoints.forInstances)
        (services.map Service.forInstances) = .ok trimmed ∧ Trims catalog trimmed := by
  have hendpoints : List.Forall₂ EndpointsTrimmed (endpoints.map Endpoints.mapped)
      ((endpoints.map Endpoints.forInstances).map Endpoints.mapped) := by
    rw [List.map_map, List.forall₂_map_left_iff, List.forall₂_map_right_iff, List.forall₂_same]
    exact fun e _ => ⟨e, rfl, rfl⟩
  obtain ⟨found, found', hfound, hfound', hpaired⟩ : ∃ found found',
      services.mapM Service.mapped = .ok found ∧
      (services.map Service.forInstances).mapM Service.mapped = .ok found' ∧
      List.Forall₂ ServiceTrimmed found found' := by
    induction services with
    | nil => exact ⟨[], [], rfl, rfl, .nil⟩
    | cons s rest ih =>
        obtain ⟨ds, ds', hds, hds', hrest⟩ := ih fun s hs => present s (List.mem_cons_of_mem _ hs)
        obtain ⟨m, hm⟩ := Option.isSome_iff_exists.mp (present s List.mem_cons_self)
        obtain ⟨d, d', hd, hd'⟩ : ∃ d d', s.mapped = .ok d ∧ s.forInstances.mapped = .ok d' := by
          unfold Service.mapped Service.forInstances
          rw [hm]
          exact ⟨_, _, rfl, rfl⟩
        refine ⟨d :: ds, d' :: ds', ?_, ?_, .cons ⟨s, hd, hd'⟩ hrest⟩
        · rw [List.mapM_cons, hd, hds]
          rfl
        · rw [List.map_cons, List.mapM_cons, hd', hds']
          rfl
  obtain ⟨stored, stored', hstored, hstored', hstock⟩ :=
    stocked_paired hendpoints (fun _ _ h => h.key) .nil
  obtain ⟨held, held', hheld, hheld', hservices⟩ :=
    stocked_paired hpaired (fun _ _ h => h.key) .nil
  refine ⟨{ empty ownNamespace with endpoints := stored, services := held },
    { empty ownNamespace with endpoints := stored', services := held' }, ?_, ?_,
    ⟨rfl, hstock, hservices⟩⟩
  · simp only [ofResources, hstored, hfound, hheld, bind, Except.bind, pure, Except.pure]
  · simp only [ofResources, hstored', hfound', hheld', bind, Except.bind, pure, Except.pure]

end Catalog

/-! ## Answers on catalogs without the fields that do not count -/

theorem flatMapM_forall₂ {α β γ ε : Type} {R : α → β → Prop} {f : α → Except ε (List γ)}
    {g : β → Except ε (List γ)} {xs : List α} {ys : List β} (h : List.Forall₂ R xs ys)
    (hfg : ∀ x y, R x y → f x = g y) : xs.flatMapM f = ys.flatMapM g := by
  induction h with
  | nil => rfl
  | cons hxy hrest ih => rw [List.flatMapM_cons, List.flatMapM_cons, hfg _ _ hxy, ih]

namespace DiscoveryClient

variable {catalog trimmed : Catalog}

/-- The service of a subset counts for its labels and annotations. -/
theorem subsetInstances_service_congr (settings : DiscoverySettings) (secure : SecurePorts)
    (name inNamespace : String) {service service' : Datum}
    (hlabels : fieldOf service "labels" = fieldOf service' "labels")
    (hannotations : fieldOf service "annotations" = fieldOf service' "annotations") :
    subsetInstances settings secure name inNamespace service =
      subsetInstances settings secure name inNamespace service' := by
  funext subset
  simp only [subsetInstances, portSecure, hlabels, hannotations]

theorem endpointsInstances_trimmed (client : DiscoveryClient) (h : Catalog.Trims catalog trimmed)
    (name : String) (endpoints : Endpoints) :
    endpointsInstances client catalog name endpoints.mapped =
      endpointsInstances client trimmed name endpoints.forInstances.mapped := by
  have hnamespace : namespaceOf catalog.ownNamespace endpoints.mapped =
      namespaceOf trimmed.ownNamespace endpoints.forInstances.mapped := by
    rw [h.own]
    obtain ⟨metadata, subsets⟩ := endpoints
    cases metadata <;> rfl
  have hservice (inNamespace : String) :
      subsetInstances client.settings client.secure name inNamespace
          (catalog.serviceIn inNamespace name) =
        subsetInstances client.settings client.secure name inNamespace
          (trimmed.serviceIn inNamespace name) := by
    have hkey : catalog.keyIn (.text inNamespace) (.text name) =
        trimmed.keyIn (.text inNamespace) (.text name) := by
      unfold Catalog.keyIn
      rw [h.own]
    unfold Catalog.serviceIn
    rw [hkey]
    rcases h.services.find (trimmed.keyIn (.text inNamespace) (.text name)) with ⟨hn, hn'⟩ | hs
    · rw [hn, hn']
    · exact subsetInstances_service_congr _ _ _ _ hs.fields.1 hs.fields.2
  unfold endpointsInstances
  simp only [hnamespace, hservice, Endpoints.mapped_subsets]
  rw [show endpoints.forInstances.subsets =
    endpoints.subsets.map (List.map EndpointSubset.forInstances) from rfl, getD_map_nil,
    List.map_map]
  refine flatMapM_forall₂ (R := fun s s' => ∃ subset : EndpointSubset,
    s = subset.mapped ∧ s' = subset.forInstances.mapped) ?_ ?_
  · rw [List.forall₂_map_left_iff, List.forall₂_map_right_iff, List.forall₂_same]
    exact fun subset _ => ⟨subset, rfl, rfl⟩
  · rintro _ _ ⟨subset, rfl, rfl⟩
    exact (subsetInstances_forInstances _ _ _ _ _ _).symm

theorem resolve_disabled (client : DiscoveryClient) (catalog : Catalog) {name : String}
    (named : name ≠ "") (disabled : client.settings.enabled = false) :
    client.resolve catalog name = .ok [] := by
  have htruthy : (Datum.text name).truthy = true := by simpa [truthy] using named
  unfold resolve
  rw [client.getInstances_disabled _ htruthy disabled]
  rfl

/-- Nothing of an answer is lost with the fields that do not count. -/
theorem resolve_trimmed (client : DiscoveryClient) (h : Catalog.Trims catalog trimmed)
    (mapped : catalog.Mapped) (mapped' : trimmed.Mapped) (readable : catalog.failure = none)
    (readable' : trimmed.failure = none) (name : String) :
    client.resolve catalog name = client.resolve trimmed name := by
  by_cases named : name = ""
  · subst named
    rfl
  cases enabled : client.settings.enabled with
  | false => rw [resolve_disabled client _ named enabled, resolve_disabled client _ named enabled]
  | true =>
      refine eq_of_map_fields ?_
      rw [resolve_fields client named enabled mapped readable,
        resolve_fields client named enabled mapped' readable']
      refine flatMapM_forall₂ (R := fun d d' => d = .null ∧ d' = .null ∨
        Catalog.EndpointsTrimmed d d') ?_ ?_
      · unfold Catalog.endpointsNamed
        split
        · exact (h.endpoints.filter fun key => key.name.same (.text name)).imp fun _ _ => .inr
        · unfold Catalog.keyIn
          rw [h.own]
          exact .cons (h.endpoints.find _) .nil
      · rintro _ _ (⟨rfl, rfl⟩ | ⟨e, rfl, rfl⟩)
        · rfl
        · exact endpointsInstances_trimmed client h name e

/-! ## Instances of ready addresses -/

/-- The instances of a subset are at its ready addresses. -/
theorem subsetInstances_address {settings : DiscoverySettings} {secure : SecurePorts}
    {name inNamespace : String} {service : Datum} {subset : EndpointSubset} {found : List Datum}
    (h : subsetInstances settings secure name inNamespace service subset.mapped = .ok found)
    {i : ServiceInstance} (hi : i.fields ∈ found) :
    ∃ address ∈ subset.addresses.getD [],
      i.host = address.ip ∧ i.instanceId = address.targetRef.bind (·.uid) := by
  unfold subsetInstances at h
  split at h
  · cases h
    cases hi
  · obtain ⟨metadata, -, h⟩ := bind_eq_ok h
    obtain ⟨port, -, h⟩ := bind_eq_ok h
    cases h
    rw [EndpointSubset.mapped_addresses] at hi
    simp only [items, List.map_map, List.mem_map, Function.comp_apply] at hi
    obtain ⟨address, haddress, hfields⟩ := hi
    have hhost := congrArg (fieldOf · "host") hfields
    have hid := congrArg (fieldOf · "instance_id") hfields
    refine ⟨address, haddress, ?_, ?_⟩
    · exact (text.inj hhost).symm
    · refine textOrNull_injective ?_
      rw [← EndpointAddress.mapped_uid]
      exact hid.symm

/-- Every instance that is found is at a ready address. -/
theorem resolve_ready {client : DiscoveryClient} {catalog : Catalog} {name own : String}
    {endpoints : List Endpoints} {services : List Service}
    (hcatalog : Catalog.ofResources own endpoints services = .ok catalog)
    {found : List ServiceInstance} (h : client.resolve catalog name = .ok found)
    {i : ServiceInstance} (hi : i ∈ found) :
    ∃ address ∈ readyAddresses endpoints,
      i.host = address.ip ∧ i.instanceId = address.targetRef.bind (·.uid) := by
  obtain ⟨-, readable, hstored, -⟩ := Catalog.ofResources_holds hcatalog
  by_cases named : name = ""
  · subst named
    cases h
  cases enabled : client.settings.enabled with
  | false =>
      rw [resolve_disabled client catalog named enabled] at h
      cases h
      cases hi
  | true =>
      have hfields := resolve_fields client named enabled
        (Catalog.ofResources_mapped hcatalog) readable
      rw [h] at hfields
      obtain ⟨collection, hcollection, instances, hinstances, hmem⟩ :=
        mem_of_flatMapM_eq_ok hfields.symm (List.mem_map_of_mem hi)
      obtain ⟨part, hpart, ofPart, hofPart, hmem⟩ := mem_of_flatMapM_eq_ok hinstances hmem
      obtain rfl | ⟨entry, hentry, rfl⟩ := catalog.endpointsNamed_mem _ name hcollection
      · cases hpart
      obtain ⟨e, he, hobject⟩ := hstored entry hentry
      rw [← hobject, Endpoints.mapped_subsets] at hpart
      obtain ⟨subset, hsubset, rfl⟩ := List.mem_map.mp hpart
      obtain ⟨address, haddress, hfound⟩ := subsetInstances_address hofPart hmem
      refine ⟨address, ?_, hfound⟩
      exact List.mem_flatMap.mpr ⟨e, he, List.mem_flatMap.mpr ⟨subset, hsubset, haddress⟩⟩

end DiscoveryClient

/-! ## Heartbeats of ready addresses -/

namespace CatalogWatch

/-- The pod that an address names. An empty name counts as none. -/
def namedPod (address : EndpointAddress) : Option String :=
  (address.targetRef.bind (·.name)).filter fun name => !name.isEmpty

theorem referredPod_mapped (address : EndpointAddress) :
    referredPod address.mapped = namedPod address := by
  have hfield : fieldOf address.mapped "target_ref" =
      (address.targetRef.map TargetRef.mapped).getD .null := rfl
  unfold referredPod namedPod
  rw [hfield]
  cases address.targetRef with
  | none => rfl
  | some ref =>
      obtain ⟨kind, name, inNamespace, uid⟩ := ref
      cases name with
      | none => rfl
      | some name =>
          change (if name.isEmpty then none else some name) = _
          cases h : name.isEmpty <;> simp [h, Option.filter]

/-- The pods behind endpoints are those that the ready addresses name. -/
theorem referredPods_mapped (endpoints : List Endpoints) :
    referredPods (endpoints.map Endpoints.mapped) =
      (readyAddresses endpoints).filterMap namedPod := by
  unfold referredPods readyAddresses
  simp only [List.flatMap_map, Endpoints.mapped_subsets, EndpointSubset.mapped_addresses]
  simp only [items, List.filterMap_map, List.filterMap_flatMap, Function.comp_def,
    referredPod_mapped]

theorem readyAddresses_forPods (endpoints : List Endpoints) :
    readyAddresses (endpoints.map Endpoints.forPods) =
      (readyAddresses endpoints).map EndpointAddress.forPods := by
  unfold readyAddresses
  simp only [List.flatMap_map, List.map_flatMap, Endpoints.forPods, EndpointSubset.forPods,
    getD_map_nil]

theorem namedPod_forPods (address : EndpointAddress) :
    namedPod address.forPods = namedPod address := by
  unfold namedPod EndpointAddress.forPods
  cases address.targetRef <;> rfl

def mappedPolls (polls : List (Except Failure (List Endpoints))) :
    List (Except Failure (List Datum)) :=
  polls.map (Except.map (List.map Endpoints.mapped))

/-- Polls without the fields that do not count for heartbeats. -/
def forPods (polls : List (Except Failure (List Endpoints))) :
    List (Except Failure (List Endpoints)) :=
  polls.map (Except.map (List.map Endpoints.forPods))

theorem watched_mapped (endpoints : List Endpoints) :
    ∀ e ∈ endpoints.map Endpoints.mapped, WatchedEndpoints e := by
  intro e he
  obtain ⟨e, -, rfl⟩ := List.mem_map.mp he
  exact e.mapped_watched

theorem observedNames_forPods (endpoints : List Endpoints) :
    observedNames ((endpoints.map Endpoints.forPods).map Endpoints.mapped) =
      observedNames (endpoints.map Endpoints.mapped) := by
  have hpods : referredPods ((endpoints.map Endpoints.forPods).map Endpoints.mapped) =
      referredPods (endpoints.map Endpoints.mapped) := by
    rw [referredPods_mapped, referredPods_mapped, readyAddresses_forPods, List.filterMap_map]
    exact congrArg (fun pod => (readyAddresses endpoints).filterMap pod) (funext namedPod_forPods)
  rw [observedNames_eq (watched_mapped _), observedNames_eq (watched_mapped _)]
  unfold observation
  rw [hpods]

/-- A poll looks at nothing but the pod names. -/
theorem poll_congr (listener : Option Listener) {endpoints endpoints' : List Datum}
    (h : observedNames endpoints = observedNames endpoints') (watch : CatalogWatch) :
    poll listener (.ok endpoints) watch = poll listener (.ok endpoints') watch := by
  unfold poll
  simp only [h]

/-- Nothing of the reports is lost with the fields that do not count. -/
theorem pollReports_forPods (listener : Option Listener)
    (polls : List (Except Failure (List Endpoints))) (watch : CatalogWatch) :
    pollReports listener (mappedPolls (forPods polls)) watch =
      pollReports listener (mappedPolls polls) watch := by
  induction polls generalizing watch with
  | nil => rfl
  | cons observed rest ih =>
      have hfirst : poll listener
          ((observed.map (List.map Endpoints.forPods)).map (List.map Endpoints.mapped)) watch =
          poll listener (observed.map (List.map Endpoints.mapped)) watch := by
        cases observed with
        | error f => rfl
        | ok endpoints => exact poll_congr listener (observedNames_forPods endpoints) watch
      have hrest := ih (poll listener (observed.map (List.map Endpoints.mapped)) watch).watch
      unfold mappedPolls forPods at hrest ⊢
      simp only [List.map_cons, pollReports, hfirst, hrest]

/-- A published event lists what the poll observed. -/
theorem poll_event {listener : Option Listener} {endpoints : List Endpoints}
    {watch : CatalogWatch} {event : Heartbeat}
    (h : (poll listener (.ok (endpoints.map Endpoints.mapped)) watch).event = some event) :
    event.podNames = observation (endpoints.map Endpoints.mapped) := by
  unfold poll at h
  simp only [observedNames_eq (watched_mapped endpoints), Heartbeat.ofFields_texts,
    Checked.toExcept] at h
  split at h
  · cases h
  · unfold publish at h
    cases listener with
    | none => exact (congrArg Heartbeat.podNames (Option.some.inj h)).symm
    | some l =>
        simp only at h
        split at h
        · cases h
        · exact (congrArg Heartbeat.podNames (Option.some.inj h)).symm

/-- Every pod that is published is named by a ready address. -/
theorem published_ready {listener : Option Listener}
    {polls : List (Except Failure (List Endpoints))} {watch : CatalogWatch} {report : PollReport}
    (hreport : report ∈ pollReports listener (mappedPolls polls) watch) {event : Heartbeat}
    (hevent : report.event = some event) {pod : String} (hpod : pod ∈ event.podNames) :
    ∃ endpoints, .ok endpoints ∈ polls ∧ ∃ address ∈ readyAddresses endpoints,
      address.targetRef.bind (·.name) = some pod := by
  obtain ⟨i, hi⟩ := List.mem_iff_getElem?.mp hreport
  rw [pollReports_getElem?] at hi
  obtain ⟨observed, hobserved, rfl⟩ := Option.map_eq_some_iff.mp hi
  obtain ⟨poll, hpoll, rfl⟩ := List.mem_map.mp (List.mem_of_getElem? hobserved)
  cases poll with
  | error f =>
      obtain ⟨-, hnone, -⟩ := poll_error listener f
        (pollAll listener ((mappedPolls polls).take i) watch).watch
      cases hnone.symm.trans hevent
  | ok endpoints =>
      rw [poll_event hevent] at hpod
      have hmem : pod ∈ referredPods (endpoints.map Endpoints.mapped) :=
        (List.mergeSort_perm _ _).mem_iff.mp hpod
      rw [referredPods_mapped] at hmem
      obtain ⟨address, haddress, hname⟩ := List.mem_filterMap.mp hmem
      exact ⟨endpoints, hpoll, address, haddress, (Option.filter_eq_some_iff.mp hname).1⟩

end CatalogWatch

/-! ## Two clusters -/

open CatalogWatch

/-- Two clusters that differ only in fields that do not count give every client the same answer,
whatever its settings, and every watch the same reports, whatever its listener. Instances and
published pods are those of ready addresses. -/
theorem answers_of_relevant_fields (own : String) (endpoints endpoints' : List Endpoints)
    (services services' : List Service) (polls polls' : List (Except Failure (List Endpoints)))
    (present : ∀ s ∈ services ++ services', s.metadata.isSome)
    (hendpoints : endpoints.map Endpoints.forInstances = endpoints'.map Endpoints.forInstances)
    (hservices : services.map Service.forInstances = services'.map Service.forInstances)
    (hpolls : forPods polls = forPods polls') :
    (∃ catalog catalog', Catalog.ofResources own endpoints services = .ok catalog ∧
      Catalog.ofResources own endpoints' services' = .ok catalog' ∧
      ∀ (client : DiscoveryClient) (name : String),
        client.resolve catalog name = client.resolve catalog' name ∧
        ∀ found, client.resolve catalog name = .ok found → ∀ i ∈ found,
          ∃ address ∈ readyAddresses endpoints,
            i.host = address.ip ∧ i.instanceId = address.targetRef.bind (·.uid)) ∧
    ∀ (listener : Option Listener) (watch : CatalogWatch),
      let reports := pollReports listener (mappedPolls polls) watch
      reports = pollReports listener (mappedPolls polls') watch ∧
      ∀ report ∈ reports, ∀ event, report.event = some event → ∀ pod ∈ event.podNames,
        ∃ seen, .ok seen ∈ polls ∧ ∃ address ∈ readyAddresses seen,
          address.targetRef.bind (·.name) = some pod := by
  constructor
  · obtain ⟨catalog, trimmed, hcatalog, htrimmed, h⟩ := Catalog.ofResources_trims own endpoints
      fun s hs => present s (List.mem_append_left _ hs)
    obtain ⟨catalog', trimmed', hcatalog', htrimmed', h'⟩ := Catalog.ofResources_trims own
      endpoints' fun s hs => present s (List.mem_append_right _ hs)
    -- Both clusters are the same one without the fields that do not count.
    obtain rfl : trimmed = trimmed' := by
      rw [hendpoints, hservices, htrimmed'] at htrimmed
      exact (Except.ok.inj htrimmed).symm
    have hfirst := (Catalog.ofResources_holds hcatalog).2.1
    have hsecond := (Catalog.ofResources_holds hcatalog').2.1
    have hshared := (Catalog.ofResources_holds htrimmed).2.1
    refine ⟨catalog, catalog', hcatalog, hcatalog', fun client name => ⟨?_, ?_⟩⟩
    · exact (client.resolve_trimmed h (Catalog.ofResources_mapped hcatalog)
        (Catalog.ofResources_mapped htrimmed) hfirst hshared name).trans
          (client.resolve_trimmed h' (Catalog.ofResources_mapped hcatalog')
            (Catalog.ofResources_mapped htrimmed) hsecond hshared name).symm
    · intro found hfound i hi
      exact DiscoveryClient.resolve_ready hcatalog hfound hi
  · intro listener watch reports
    constructor
    · change pollReports listener (mappedPolls polls) watch = _
      rw [← pollReports_forPods, hpolls, pollReports_forPods]
    · intro report hreport event hevent pod hpod
      exact published_ready hreport hevent hpod

/-- A service with one ready address. The arguments do not count for instances. -/
def webEndpoints (hostname protocol : Option String) (notReady : Option (List EndpointAddress)) :
    Endpoints :=
  let pod : TargetRef := ⟨some "Pod", some "web-0", some "default", some "uid-0"⟩
  ⟨some ⟨some "web", some "default", none, none, none⟩,
    some [⟨some [⟨"10.0.0.1", hostname, none, some pod⟩], notReady,
      some [⟨some "http", 80, protocol⟩]⟩]⟩

def webService (spec : Option ServiceSpec) : Service :=
  ⟨some ⟨some "web", some "default", some [("tier", "front")], none, none⟩, spec⟩

/-- The address of a pod that is still starting. -/
def startingAddress : EndpointAddress :=
  ⟨"10.0.0.2", none, some "node-1", some ⟨some "Pod", some "web-1", none, some "uid-1"⟩⟩

theorem answers_without_startingAddress :
    let full := webEndpoints (some "web-0") (some "TCP") (some [startingAddress])
    let bare := webEndpoints none none none
    let spec : ServiceSpec := ⟨some "ClusterIP", some "10.1.0.1", none⟩
    let down : Failure := .external "OSError" "down"
    ∃ catalog catalog',
      Catalog.ofResources "default" [full] [webService (some spec)] = .ok catalog ∧
      Catalog.ofResources "default" [bare] [webService none] = .ok catalog' ∧
      DiscoveryClient.shopper.resolve catalog "web" =
        DiscoveryClient.shopper.resolve catalog' "web" ∧
      pollReports (some {}) (mappedPolls [.ok [full], .error down]) initial =
        pollReports (some {}) (mappedPolls [.ok [bare], .error down]) initial := by
  intro full bare spec down
  have present : ∀ s ∈ [webService (some spec)] ++ [webService none], s.metadata.isSome := by
    decide
  obtain ⟨⟨catalog, catalog', hcatalog, hcatalog', hanswers⟩, hreports⟩ :=
    answers_of_relevant_fields "default" [full] [bare] [webService (some spec)] [webService none]
      [.ok [full], .error down] [.ok [bare], .error down] present rfl rfl rfl
  exact ⟨catalog, catalog', hcatalog, hcatalog', (hanswers DiscoveryClient.shopper "web").1,
    (hreports (some {}) initial).1⟩

end ClusterDiscovery
