import ClusterDiscovery.Discovery.Client
import ClusterDiscovery.Proofs.SubsetInstances

/-! # The resolution of instances

A client reads endpoints, one collection or those of all namespaces, and then the service of
every collection that has subsets. On a catalog of mapped objects the result is the expansion of
all collections, subset by subset and address by address.
-/

namespace ClusterDiscovery

open Datum Resource ClusterDiscovery.Action

namespace Catalog

/-! ## Reads of a catalog -/

def recorded (catalog : Catalog) (reads : List CatalogRead) : Catalog :=
  { catalog with reads := catalog.reads ++ reads }

theorem recorded_nil (catalog : Catalog) : catalog.recorded [] = catalog := by
  unfold recorded
  rw [List.append_nil]

theorem recorded_recorded (catalog : Catalog) (first second : List CatalogRead) :
    (catalog.recorded first).recorded second = catalog.recorded (first ++ second) := by
  unfold recorded
  rw [List.append_assoc]

def serviceIn (catalog : Catalog) (inNamespace name : String) : Datum :=
  find (catalog.keyIn (.text inNamespace) (.text name)) catalog.services

/-- The endpoints that a client looks at, in the order of the read: those in the own namespace,
which may be null, or those with the name everywhere. -/
def endpointsNamed (catalog : Catalog) (everywhere : Bool) (name : String) : List Datum :=
  if everywhere then (catalog.endpoints.filter fun e => e.1.name.same (.text name)).map (·.2)
  else [find (catalog.keyIn (.text catalog.ownNamespace) (.text name)) catalog.endpoints]

variable {catalog : Catalog}

theorem recordRead_runsTo (readable : catalog.failure = none) (name : String)
    (arguments : List Datum) :
    RunsTo (recordRead name arguments) catalog (.ok ()) (catalog.recorded [⟨name, arguments⟩]) := by
  refine (runsTo_modifyWorld _).trans (runsTo_getWorld.trans ?_)
  have h : (catalog.recorded [⟨name, arguments⟩]).failure = none := readable
  unfold recorded at h ⊢
  rw [h]
  exact runsTo_pure ()

theorem getEndpoints_runsTo (readable : catalog.failure = none) (name inNamespace : String) :
    RunsTo (reader.getEndpoints (.text name) (.text inNamespace)) catalog
      (.ok (find (catalog.keyIn (.text inNamespace) (.text name)) catalog.endpoints))
      (catalog.recorded [⟨"get_endpoints", [.text name, .text inNamespace]⟩]) :=
  (recordRead_runsTo readable _ _).trans (runsTo_getWorld.trans (runsTo_pure _))

theorem getService_runsTo (readable : catalog.failure = none) (name inNamespace : String) :
    RunsTo (reader.getService (.text name) (.text inNamespace)) catalog
      (.ok (catalog.serviceIn inNamespace name))
      (catalog.recorded [⟨"get_service", [.text name, .text inNamespace]⟩]) :=
  (recordRead_runsTo readable _ _).trans (runsTo_getWorld.trans (runsTo_pure _))

theorem Mapped.serviceIn (mapped : catalog.Mapped) (inNamespace name : String) :
    catalog.serviceIn inNamespace name = .null ∨
      MappedService (catalog.serviceIn inNamespace name) := by
  obtain hnull | ⟨entry, hmem, hentry⟩ :=
    find_mem (catalog.keyIn (.text inNamespace) (.text name)) catalog.services
  · exact .inl hnull
  · have hservice := mapped.services entry hmem
    rw [hentry] at hservice
    exact .inr hservice

/-- Endpoints that a client looks at are stored, unless they are null. -/
theorem endpointsNamed_mem (catalog : Catalog) (everywhere : Bool) (name : String) {e : Datum}
    (he : e ∈ catalog.endpointsNamed everywhere name) :
    e = .null ∨ ∃ entry ∈ catalog.endpoints, entry.2 = e := by
  cases everywhere with
  | true =>
      obtain ⟨entry, hentry, rfl⟩ := List.mem_map.mp he
      exact .inr ⟨entry, (List.mem_filter.mp hentry).1, rfl⟩
  | false =>
      obtain rfl := List.mem_singleton.mp he
      exact find_mem (catalog.keyIn (.text catalog.ownNamespace) (.text name)) catalog.endpoints

theorem Mapped.endpointsNamed (mapped : catalog.Mapped) (everywhere : Bool) (name : String) :
    ∀ e ∈ catalog.endpointsNamed everywhere name, e = .null ∨ MappedEndpoints e := by
  intro e he
  obtain hnull | ⟨entry, hentry, rfl⟩ := catalog.endpointsNamed_mem everywhere name he
  · exact .inl hnull
  · exact .inr (mapped.endpoints entry hentry)

end Catalog

/-! ## Groups of subsets -/

theorem Check.entries_anything (fields : List (String × Datum)) :
    Check.entries Check.anything (fields.map fun (name, d) => (.text name, d)) =
      .accepted fields := by
  induction fields with
  | nil => rfl
  | cons field fields ih =>
      simp only [List.map_cons, Check.entries, ih]
      rfl

/-- Records pass the check of a group unchanged. -/
theorem Check.each_records (i : Nat) {subsets : List Datum} (h : ∀ s ∈ subsets, s.IsRecord) :
    ∃ groups, Check.each (Check.mapping Check.anything) i subsets = .accepted groups ∧
      groups.map record = subsets := by
  induction subsets generalizing i with
  | nil => exact ⟨[], rfl, rfl⟩
  | cons subset rest ih =>
      obtain ⟨fields, rfl⟩ := h subset List.mem_cons_self
      obtain ⟨groups, hgroups, hrest⟩ := ih (i + 1) fun s hs => h s (List.mem_cons_of_mem _ hs)
      refine ⟨fields :: groups, ?_, ?_⟩
      · have hfields : Check.mapping Check.anything (record fields) = .accepted fields :=
          Check.entries_anything fields
        simp only [Check.each, hfields, hgroups]
        rfl
      · rw [List.map_cons, hrest]

theorem SubsetGroup.ofFields_accepted (inNamespace : String) {subsets : List Datum}
    (h : ∀ s ∈ subsets, s.IsRecord) :
    SubsetGroup.ofFields
        [(.text "namespace", .text inNamespace), (.text "subsets", .list subsets)] =
      .accepted ⟨inNamespace, subsets⟩ := by
  obtain ⟨groups, hgroups, hrecords⟩ := Check.each_records 0 h
  simp only [SubsetGroup.ofFields, requiredField, optionalField, Datum.named?, lookup?,
    List.find?_cons, same_text_text, String.reduceBEq, beq_self_eq_true, Option.map_some,
    Check.list, hgroups]
  rw [← hrecords]
  rfl

namespace DiscoveryClient

/-- The namespace of endpoints. Where it is missing or empty, the own one counts. -/
def namespaceOf (ownNamespace : String) (endpoints : Datum) : String :=
  match fieldOf endpoints "namespace" with
  | .text s => if s.isEmpty then ownNamespace else s
  | _ => ownNamespace

def groupOf (ownNamespace : String) (endpoints : Datum) : SubsetGroup :=
  if (fieldOf endpoints "subsets").isNull then ⟨ownNamespace, []⟩
  else ⟨namespaceOf ownNamespace endpoints, (fieldOf endpoints "subsets").items⟩

theorem subsetGroup_eq {endpoints : Datum} (h : endpoints = .null ∨ MappedEndpoints endpoints)
    (ownNamespace : String) :
    subsetGroup endpoints ownNamespace = .ok (groupOf ownNamespace endpoints) := by
  obtain rfl | ⟨hmap, hnamespace, hsubsets⟩ := h
  · rfl
  have hnull : endpoints.isNull = false := by
    obtain ⟨entries, rfl⟩ := hmap
    rfl
  have hname : (fieldOf endpoints "namespace").orElse (.text ownNamespace) =
      .text (namespaceOf ownNamespace endpoints) := by
    unfold namespaceOf
    obtain h | ⟨s, h⟩ := hnamespace
    · rw [h]
      rfl
    · rw [h]
      cases hs : s.isEmpty <;> simp [orElse, truthy, hs]
  unfold subsetGroup groupOf
  simp only [hnull, hmap.optional, bind, Except.bind, hname]
  obtain hnone | ⟨subsets, hsome, hmapped⟩ := hsubsets
  · rw [hnone]
    rfl
  · have hgroup := SubsetGroup.ofFields_accepted (namespaceOf ownNamespace endpoints)
      fun s hs => (hmapped s hs).record
    simp only [hsome, isNull, pure, Except.pure, Bool.false_eq_true, if_false, hgroup]
    rfl

theorem groupOf_subsets {endpoints : Datum} (h : endpoints = .null ∨ MappedEndpoints endpoints)
    (ownNamespace : String) : ∀ s ∈ (groupOf ownNamespace endpoints).subsets, MappedSubset s := by
  unfold groupOf
  obtain rfl | hmapped := h
  · exact fun s hs => absurd hs List.not_mem_nil
  obtain hnull | ⟨subsets, hsome, hsubsets⟩ := hmapped.subsets
  · rw [hnull]
    exact fun s hs => absurd hs List.not_mem_nil
  · rw [hsome]
    exact hsubsets

/-! ## Expansion -/

section Expansion

variable {World : Type} {w : World}

theorem expandSubsets_runsTo (settings : DiscoverySettings) (secure : SecurePorts)
    (name inNamespace : String) {service : Datum} {shared : List (Datum × Datum)}
    (hservice : MappedService service)
    (hshared : serviceContribution (fieldOf service "labels") (fieldOf service "annotations")
      settings.metadata = .ok shared)
    (htexts : TextEntries shared) {subsets : List Datum} (h : ∀ s ∈ subsets, MappedSubset s) :
    ∃ r, RunsTo (expandSubsets settings secure ⟨.text name, .text inNamespace,
        (fieldOf service "labels").orElse (.map []),
        (fieldOf service "annotations").orElse (.map []), shared⟩ subsets) w r w ∧
      r.map (List.map ServiceInstance.fields) =
        subsets.flatMapM (subsetInstances settings secure name inNamespace service) := by
  induction subsets with
  | nil => exact ⟨.ok [], runsTo_pure [], rfl⟩
  | cons subset rest ih =>
      obtain ⟨first, hfirst, hone⟩ := expandSubset_runsTo (w := w) settings secure name
        inNamespace hservice.labels hservice.annotations hshared htexts
        (h subset List.mem_cons_self)
      obtain ⟨others, hothers, hrest⟩ := ih fun s hs => h s (List.mem_cons_of_mem _ hs)
      rw [List.flatMapM_cons, ← hone, ← hrest]
      refine ⟨_, hfirst.bind fun found _ => hothers.bind fun more _ => runsTo_pure _, ?_⟩
      cases first <;> cases others <;> simp [Except.map, bind, Except.bind, pure, Except.pure]

/-- The expansion for a service that stands in a namespace. -/
def expandFor (settings : DiscoverySettings) (secure : SecurePorts)
    (inNamespace name subsets service : Datum) : Action World (List ServiceInstance) := do
  let labels := (← Action.ofReading (service.optional "labels")).orElse (.map [])
  let annotations := (← Action.ofReading (service.optional "annotations")).orElse (.map [])
  let metadata ← serviceMetadata labels annotations settings.metadata
  let instances ← expandSubsets settings secure ⟨name, inNamespace, labels, annotations, metadata⟩
    (← Action.ofReading subsets.elements)
  Action.report (.debug ("Expanded " ++ toString instances.length ++ " instances"))
  return instances

theorem expand_eq (reader : ClusterReader World) (settings : DiscoverySettings)
    (secure : SecurePorts) (inNamespace name : Datum) {subsets : Datum}
    (h : subsets.truthy = true) :
    expand reader settings secure inNamespace name subsets = (do
      let found ← reader.getService name inNamespace
      if found.isNull then
        Action.report (.warning "Service not found for endpoints, using empty metadata")
        expandFor settings secure inNamespace name subsets (anonymousService name)
      else expandFor settings secure inNamespace name subsets found) := by
  simp only [expand, expandFor, h, Bool.not_true, Bool.false_eq_true, if_false, pure_bind]

theorem mapped_anonymousService (name : Datum) : MappedService (anonymousService name) :=
  ⟨.record _, .inr ⟨[], rfl, .nil⟩, .inr ⟨[], rfl, .nil⟩⟩

theorem expandFor_runsTo (settings : DiscoverySettings) (secure : SecurePorts)
    (name inNamespace : String) {service : Datum} (hservice : MappedService service)
    {subsets : List Datum} (h : ∀ s ∈ subsets, MappedSubset s) :
    ∃ r, RunsTo (expandFor settings secure (.text inNamespace) (.text name) (.list subsets)
        service) w r w ∧
      r.map (List.map ServiceInstance.fields) =
        subsets.flatMapM (subsetInstances settings secure name inNamespace service) := by
  obtain ⟨shared, hshared, htexts⟩ :=
    serviceContribution_texts hservice.labels hservice.annotations settings.metadata
  obtain ⟨r, hrun, hfields⟩ := expandSubsets_runsTo (w := w) settings secure name inNamespace
    hservice hshared htexts h
  have hmetadata := serviceMetadata_runsTo (w := w) ((fieldOf service "labels").orElse (.map []))
    ((fieldOf service "annotations").orElse (.map [])) settings.metadata
  rw [serviceContribution_orElse, hshared] at hmetadata
  refine ⟨r, ?_, hfields⟩
  unfold expandFor
  refine (runsTo_of_read (hservice.mapping.optional _)).trans <|
    (runsTo_of_read (hservice.mapping.optional _)).trans <| hmetadata.trans <|
    (runsTo_of_read rfl).trans ?_
  cases r with
  | error f => exact hrun.stop
  | ok instances => exact hrun.trans ((runsTo_report _).trans (runsTo_pure instances))

end Expansion

/-- The reads of services that a group causes. -/
def groupReads (name : String) (group : SubsetGroup) : List CatalogRead :=
  if group.subsets.isEmpty then []
  else [⟨"get_service", [.text name, .text group.inNamespace]⟩]

variable {catalog : Catalog}

theorem expand_runsTo (mapped : catalog.Mapped) (readable : catalog.failure = none)
    (settings : DiscoverySettings) (secure : SecurePorts) (name inNamespace : String)
    {subsets : List Datum} (h : ∀ s ∈ subsets, MappedSubset s) :
    ∃ r, RunsTo (expand Catalog.reader settings secure (.text inNamespace) (.text name)
        (.list subsets)) catalog r (catalog.recorded (groupReads name ⟨inNamespace, subsets⟩)) ∧
      r.map (List.map ServiceInstance.fields) =
        subsets.flatMapM (subsetInstances settings secure name inNamespace
          (catalog.serviceIn inNamespace name)) := by
  cases hempty : subsets.isEmpty with
  | true =>
      obtain rfl := List.isEmpty_iff.mp hempty
      refine ⟨.ok [], ?_, rfl⟩
      rw [show groupReads name ⟨inNamespace, []⟩ = [] from rfl, catalog.recorded_nil]
      exact runsTo_pure []
  | false =>
      have htruthy : (Datum.list subsets).truthy = true := by simp [truthy, hempty]
      have hread := Catalog.getService_runsTo readable name inNamespace
      simp only [groupReads, hempty, Bool.false_eq_true, if_false]
      rw [expand_eq _ _ _ _ _ htruthy]
      obtain hnull | hservice := mapped.serviceIn inNamespace name
      · rw [hnull] at hread ⊢
        obtain ⟨r, hrun, hfields⟩ := expandFor_runsTo settings secure name inNamespace
          (mapped_anonymousService (.text name)) h
        rw [subsetInstances_anonymous] at hfields
        exact ⟨r, hread.trans ((runsTo_report _).trans hrun), hfields⟩
      · have hsome : (catalog.serviceIn inNamespace name).isNull = false := by
          obtain ⟨entries, hentries⟩ := hservice.mapping
          rw [hentries]
          rfl
        obtain ⟨r, hrun, hfields⟩ := expandFor_runsTo settings secure name inNamespace hservice h
        refine ⟨r, hread.trans ?_, hfields⟩
        rw [hsome]
        exact hrun

/-- The fields of the instances behind endpoints: those of all subsets, in order. The service is
looked up in the namespace of the endpoints. -/
def endpointsInstances (client : DiscoveryClient) (catalog : Catalog) (name : String)
    (endpoints : Datum) : Except Failure (List Datum) :=
  let inNamespace := namespaceOf catalog.ownNamespace endpoints
  (fieldOf endpoints "subsets").items.flatMapM
    (subsetInstances client.settings client.secure name inNamespace
      (catalog.serviceIn inNamespace name))

/-- The reads of services for endpoints. They end with the first collection that fails. -/
def serviceReads (client : DiscoveryClient) (catalog : Catalog) (name : String) :
    List Datum → List CatalogRead
  | [] => []
  | endpoints :: rest =>
    groupReads name (groupOf catalog.ownNamespace endpoints) ++
      match endpointsInstances client catalog name endpoints with
      | .error _ => []
      | .ok _ => serviceReads client catalog name rest

/-- A group has the instances that its endpoints have. -/
theorem groupOf_instances (client : DiscoveryClient) (catalog : Catalog) (name : String)
    {endpoints : Datum} (h : endpoints = .null ∨ MappedEndpoints endpoints) :
    let group := groupOf catalog.ownNamespace endpoints
    group.subsets.flatMapM (subsetInstances client.settings client.secure name group.inNamespace
        (catalog.serviceIn group.inNamespace name)) =
      endpointsInstances client catalog name endpoints := by
  unfold groupOf endpointsInstances
  obtain rfl | hmapped := h
  · rfl
  obtain hnull | ⟨subsets, hsome, -⟩ := hmapped.subsets
  · rw [hnull]
    rfl
  · rw [hsome]
    rfl

theorem expandGroups_runsTo (client : DiscoveryClient) (mapped : catalog.Mapped)
    (readable : catalog.failure = none) (name : String) {found : List Datum}
    (h : ∀ e ∈ found, e = .null ∨ MappedEndpoints e) (before : List CatalogRead) :
    ∃ r, RunsTo (expandGroups Catalog.reader client (.text name)
        (found.map (groupOf catalog.ownNamespace))) (catalog.recorded before) r
        (catalog.recorded (before ++ serviceReads client catalog name found)) ∧
      r.map (List.map ServiceInstance.fields) =
        found.flatMapM (endpointsInstances client catalog name) := by
  induction found generalizing before with
  | nil =>
      refine ⟨.ok [], ?_, rfl⟩
      rw [serviceReads, List.append_nil]
      exact runsTo_pure []
  | cons endpoints rest ih =>
      have hrest : ∀ e ∈ rest, e = .null ∨ MappedEndpoints e :=
        fun e he => h e (List.mem_cons_of_mem _ he)
      have hsubsets := groupOf_subsets (h endpoints List.mem_cons_self) catalog.ownNamespace
      have hgroup := groupOf_instances client catalog name (h endpoints List.mem_cons_self)
      -- Reads do not change what a catalog holds.
      have hrecorded : (catalog.recorded before).Mapped := ⟨mapped.endpoints, mapped.services⟩
      obtain ⟨first, hfirst, hone⟩ := expand_runsTo hrecorded readable client.settings
        client.secure name (groupOf catalog.ownNamespace endpoints).inNamespace hsubsets
      have hfields : first.map (List.map ServiceInstance.fields) =
          endpointsInstances client catalog name endpoints := hone.trans hgroup
      rw [Catalog.recorded_recorded] at hfirst
      rw [List.flatMapM_cons, serviceReads, ← hfields]
      cases first with
      | error f =>
          refine ⟨.error f, ?_, rfl⟩
          simp only [Except.map, List.append_nil]
          exact hfirst.stop
      | ok instances =>
          obtain ⟨others, hothers, hmore⟩ :=
            ih hrest (before ++ groupReads name (groupOf catalog.ownNamespace endpoints))
          rw [List.append_assoc] at hothers
          rw [← hmore]
          refine ⟨_, hfirst.trans (hothers.bind fun more _ => runsTo_pure (instances ++ more)), ?_⟩
          cases others <;> simp [Except.map, bind, Except.bind, pure, Except.pure]

/-! ## All instances -/

def endpointsRead (everywhere : Bool) (name ownNamespace : String) : CatalogRead :=
  if everywhere then ⟨"list_endpoints_for_all_namespaces", [.text name]⟩
  else ⟨"get_endpoints", [.text name, .text ownNamespace]⟩

def readEndpoints {World : Type} (reader : ClusterReader World) (everywhere : Bool) (name : Datum)
    (ownNamespace : String) : Action World (List Datum) := do
  if everywhere then reader.listEndpointsEverywhere name
  else return [← reader.getEndpoints name (.text ownNamespace)]

theorem getInstances_unnamed {World : Type} (client : DiscoveryClient)
    (reader : ClusterReader World) {name : Datum} (unnamed : name.truthy = false) :
    client.getInstances reader name =
      throw (.invalidArgument (.text "service_id") "must not be empty") := by
  simp only [getInstances, unnamed]
  rfl

theorem getInstances_disabled {World : Type} (client : DiscoveryClient)
    (reader : ClusterReader World) {name : Datum} (named : name.truthy = true)
    (disabled : client.settings.enabled = false) : client.getInstances reader name = pure [] := by
  simp only [getInstances, named, disabled]
  rfl

theorem getInstances_eq {World : Type} (client : DiscoveryClient) (reader : ClusterReader World)
    {name : Datum} (named : name.truthy = true) (enabled : client.settings.enabled = true) :
    client.getInstances reader name = (do
      let ownNamespace := reader.ownNamespace (← getWorld)
      let found ← readEndpoints reader client.settings.allNamespaces name ownNamespace
      let groups ← ofResult (found.mapM fun e => subsetGroup e ownNamespace)
      let instances ← expandGroups reader client name groups
      report (.info ("Resolved " ++ toString instances.length ++ " instances"))
      return instances) := by
  cases heverywhere : client.settings.allNamespaces <;>
    simp only [getInstances, readEndpoints, named, enabled, heverywhere, Bool.not_true,
      Bool.false_eq_true, if_false, if_true, bind_assoc, pure_bind]

theorem readEndpoints_runsTo (readable : catalog.failure = none) (everywhere : Bool)
    (name : String) :
    RunsTo (readEndpoints Catalog.reader everywhere (.text name) catalog.ownNamespace) catalog
      (.ok (catalog.endpointsNamed everywhere name))
      (catalog.recorded [endpointsRead everywhere name catalog.ownNamespace]) := by
  cases everywhere with
  | true =>
      exact (Catalog.recordRead_runsTo readable _ _).trans (runsTo_getWorld.trans (runsTo_pure _))
  | false => exact (Catalog.getEndpoints_runsTo readable _ _).trans (runsTo_pure _)

/-- A call makes one read of endpoints and one read of a service for every collection with
subsets, until a collection fails. -/
theorem getInstances_runsTo (client : DiscoveryClient) (mapped : catalog.Mapped)
    (readable : catalog.failure = none) (enabled : client.settings.enabled = true)
    {name : String} (named : name ≠ "") :
    let found := catalog.endpointsNamed client.settings.allNamespaces name
    ∃ r, RunsTo (getInstances client Catalog.reader (.text name)) catalog r
        (catalog.recorded
          (endpointsRead client.settings.allNamespaces name catalog.ownNamespace ::
            serviceReads client catalog name found)) ∧
      r.map (List.map ServiceInstance.fields) =
        found.flatMapM (endpointsInstances client catalog name) := by
  intro found
  have htruthy : (Datum.text name).truthy = true := by simpa [truthy] using named
  have hmapped : ∀ e ∈ found, e = .null ∨ MappedEndpoints e :=
    mapped.endpointsNamed client.settings.allNamespaces name
  have hgroups : found.mapM (fun e => subsetGroup e catalog.ownNamespace) =
      .ok (found.map (groupOf catalog.ownNamespace)) :=
    mapM_eq_ok fun e he => subsetGroup_eq (hmapped e he) _
  obtain ⟨r, hrun, hfields⟩ := expandGroups_runsTo client mapped readable name hmapped
    [endpointsRead client.settings.allNamespaces name catalog.ownNamespace]
  refine ⟨r, ?_, hfields⟩
  rw [getInstances_eq client Catalog.reader htruthy enabled]
  refine runsTo_getWorld.trans <| (readEndpoints_runsTo readable _ name).trans <|
    (runsTo_of_result hgroups).trans ?_
  cases r with
  | error f => exact hrun.stop
  | ok instances => exact hrun.trans ((runsTo_report _).trans (runsTo_pure instances))

/-- The instances of a name are the expansion of its endpoints. In the order of the read, every
collection, every subset of it and every address of that gives exactly one instance. Its host,
its identifier and its port are those of the address and of the port chosen for the subset, its
namespace is that of the collection, and its metadata are those that one merge gives. A call
fails with the first subset that has addresses but no usable port or metadata. -/
theorem instances_of_addresses (client : DiscoveryClient) (catalog : Catalog) (name : String)
    (named : name ≠ "") (enabled : client.settings.enabled = true) (mapped : catalog.Mapped)
    (readable : catalog.failure = none) (log : List LogEntry) (waits : List Float) :
    ((getInstances client Catalog.reader (.text name)).runOn ⟨catalog, log, waits⟩).1.map
        (List.map ServiceInstance.fields) =
      (catalog.endpointsNamed client.settings.allNamespaces name).flatMapM
        (endpointsInstances client catalog name) := by
  obtain ⟨r, hrun, hfields⟩ := getInstances_runsTo client mapped readable enabled named
  rw [hrun.result log waits]
  exact hfields

/-- Stored endpoints with a subset for every list of addresses, all on the same ports. -/
def endpointsAt (name inNamespace : String) (subsets : List (List String))
    (ports : List ResourcePort) : CatalogEntry :=
  let address (ip : String) : EndpointAddress :=
    ⟨ip, none, none, some ⟨none, none, none, some ("uid-" ++ ip)⟩⟩
  let endpoints : Endpoints := ⟨some ⟨some name, some inNamespace, none, none, none⟩,
    some (subsets.map fun ips => ⟨some (ips.map address), none, some ports⟩)⟩
  (⟨.text inNamespace, .text name⟩, endpoints.mapped)

/-- A service in two namespaces. In one of them the service itself is missing. -/
def shop : Catalog :=
  { Catalog.empty "default" with
    endpoints := [
      endpointsAt "web" "default" [["10.0.0.1", "10.0.0.2"], []]
        [⟨some "http", 80, none⟩, ⟨some "https", 443, none⟩],
      endpointsAt "web" "edge" [["10.0.1.1"]] [⟨none, 8080, none⟩]]
    services := [(⟨.text "default", .text "web"⟩,
      record [("labels", textMapping (some [("tier", "front")]))])] }

theorem shop_mapped : shop.Mapped where
  endpoints := by
    intro entry hentry
    simp only [shop, List.mem_cons, List.not_mem_nil, or_false] at hentry
    obtain rfl | rfl := hentry <;> exact Endpoints.mapped_endpoints _
  services := by
    intro entry hentry
    simp only [shop, List.mem_singleton] at hentry
    subst hentry
    exact ⟨.record _, by simpa [fieldOf_record] using textMapping_labelling _, .inl rfl⟩

/-- A client that looks into all namespaces and prefers the port for encrypted traffic. -/
def shopper : DiscoveryClient where
  settings := { allNamespaces := true, primaryPortName := some "HTTPS",
                metadata := { addPorts := false } }
  secure := .standard
  filter := ⟨none, none⟩

theorem instances_of_shop :
    "web" ≠ "" ∧ shopper.settings.enabled = true ∧ shop.Mapped ∧ shop.failure = none ∧
      ((getInstances shopper Catalog.reader (.text "web")).runOn ⟨shop, [], []⟩).1.map
          (List.map ServiceInstance.fields) =
        .ok (["10.0.0.1", "10.0.0.2"].map (fun ip =>
            record [("instance_id", .text ("uid-" ++ ip)), ("service_id", .text "web"),
              ("namespace", .text "default"), ("host", .text ip), ("port", .int 443),
              ("metadata", .map [(.text "tier", .text "front")]), ("secure", .bool true)]) ++
          [record [("instance_id", .text "uid-10.0.1.1"), ("service_id", .text "web"),
            ("namespace", .text "edge"), ("host", .text "10.0.1.1"), ("port", .int 8080),
            ("metadata", .map []), ("secure", .bool false)]]) :=
  ⟨by decide, rfl, shop_mapped, rfl,
    (instances_of_addresses shopper shop "web" (by decide) rfl shop_mapped rfl [] []).trans rfl⟩

end DiscoveryClient

end ClusterDiscovery
