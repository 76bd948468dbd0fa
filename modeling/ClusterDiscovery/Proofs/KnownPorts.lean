import ClusterDiscovery.Proofs.FailingReads
import ClusterDiscovery.Proofs.Namespaces
import Mathlib.Data.List.Forall2

/-! # More known ports

Two resolutions that differ in the known secure ports are compared. Instances are described by
what they are made of, before it is decided whether they are secure; the known ports come in only
then. So both resolutions make the same reads and find the same instances, and more known ports
make more of them secure.
-/

namespace ClusterDiscovery

open Datum Resource ClusterDiscovery.Action

/-! ## What makes a port secure -/

/-- The service carries the label or the annotation `secured` with a value that means yes. -/
def DeclaresSecure (service : Datum) : Prop :=
  ∃ value ∈ ["true", "on", "yes", "1"],
    fieldOf (fieldOf service "labels") "secured" = .text value ∨
      fieldOf (fieldOf service "annotations") "secured" = .text value

theorem marked_iff (labelling : Datum) :
    marked labelling = true ↔
      ∃ value ∈ ["true", "on", "yes", "1"], fieldOf labelling "secured" = .text value := by
  unfold marked
  split
  · next s hs => simp [hs, affirmations]
  · next hother => exact ⟨nofun, fun ⟨value, _, hvalue⟩ => absurd hvalue (hother value)⟩

theorem same_int_int (m n : Int) : same (.int m) (.int n) = true ↔ m = n := by
  simp [same, sameNumber, number?, Number.compareNumbers, Std.LawfulEqCmp.compare_eq_iff_eq]

theorem any_same_int (known : List Int) (n : Int) :
    (SecurePorts.ofInts known).known.any (same (.int n)) = true ↔ n ∈ known := by
  simp only [SecurePorts.ofInts, List.any_map, List.any_eq_true, Function.comp_apply, same_int_int,
    exists_eq_right']

/-- What a service declares counts, and otherwise only whether the port is a known one. -/
theorem portSecure_iff {port : Datum} {n : Int} (hport : fieldOf port "port" = .int n)
    (known : List Int) (service : Datum) :
    portSecure (.ofInts known) service port = true ↔ DeclaresSecure service ∨ n ∈ known := by
  unfold portSecure DeclaresSecure
  rw [hport, Bool.or_eq_true, Bool.or_eq_true, marked_iff, marked_iff, any_same_int]
  simp only [and_or_left, exists_or]

/-! ## Instances before their ports are classified -/

structure Site where
  inNamespace : String
  metadata : List (Datum × Datum)
  port : Datum
  address : Datum

/-- The fields of the instance at a site. Only here the known ports are consulted. -/
def Site.fields (secure : SecurePorts) (catalog : Catalog) (name : String) (site : Site) : Datum :=
  instanceFields name site.inNamespace site.metadata site.port
    (portSecure secure (catalog.serviceIn site.inNamespace name) site.port) site.address

def subsetSites (settings : DiscoverySettings) (inNamespace : String) (service subset : Datum) :
    Except Failure (List Site) := do
  if (fieldOf subset "addresses").items.isEmpty then return []
  let metadata ← composedMetadata (fieldOf service "labels") (fieldOf service "annotations")
    (fieldOf subset "ports") settings.metadata
  let port ← selectPort (fieldOf subset "ports").items settings.primaryPortName
  return (fieldOf subset "addresses").items.map (Site.mk inNamespace metadata port)

theorem subsetInstances_eq (settings : DiscoverySettings) (secure : SecurePorts)
    (catalog : Catalog) (name inNamespace : String) (subset : Datum) :
    subsetInstances settings secure name inNamespace (catalog.serviceIn inNamespace name) subset =
      (subsetSites settings inNamespace (catalog.serviceIn inNamespace name) subset).map
        (List.map (Site.fields secure catalog name)) := by
  unfold subsetInstances subsetSites
  split
  · rfl
  · cases composedMetadata (fieldOf (catalog.serviceIn inNamespace name) "labels")
      (fieldOf (catalog.serviceIn inNamespace name) "annotations") (fieldOf subset "ports")
      settings.metadata with
    | error f => rfl
    | ok metadata =>
        cases selectPort (fieldOf subset "ports").items settings.primaryPortName with
        | error f => rfl
        | ok port =>
            simp only [bind, Except.bind, pure, Except.pure, Except.map, List.map_map]
            rfl

namespace DiscoveryClient

def endpointsSites (settings : DiscoverySettings) (catalog : Catalog) (name : String)
    (endpoints : Datum) : Except Failure (List Site) :=
  let inNamespace := namespaceOf catalog.ownNamespace endpoints
  (fieldOf endpoints "subsets").items.flatMapM
    (subsetSites settings inNamespace (catalog.serviceIn inNamespace name))

theorem endpointsInstances_eq (client : DiscoveryClient) (catalog : Catalog) (name : String)
    (endpoints : Datum) :
    endpointsInstances client catalog name endpoints =
      (endpointsSites client.settings catalog name endpoints).map
        (List.map (Site.fields client.secure catalog name)) := by
  unfold endpointsInstances endpointsSites
  rw [map_flatMapM]
  exact congrArg (fun read => (fieldOf endpoints "subsets").items.flatMapM read)
    (funext (subsetInstances_eq client.settings client.secure catalog name _))

/-- The client with other known ports, and with other ones configured since it was made. -/
def knowing (client : DiscoveryClient) (known configured : List Int) : DiscoveryClient :=
  { client with
    settings := { client.settings with knownSecurePorts := configured }
    secure := .ofInts known }

theorem endpointsInstances_knowing (client : DiscoveryClient) (known configured : List Int)
    (catalog : Catalog) (name : String) (endpoints : Datum) :
    endpointsInstances (client.knowing known configured) catalog name endpoints =
      (endpointsSites client.settings catalog name endpoints).map
        (List.map (Site.fields (.ofInts known) catalog name)) :=
  endpointsInstances_eq _ _ _ _

/-- The known ports decide no expansion, so they change no read. -/
theorem plannedReads_knowing (client : DiscoveryClient)
    (known known' configured configured' : List Int) (catalog : Catalog) (name : String) :
    (client.knowing known configured).plannedReads catalog name =
      (client.knowing known' configured').plannedReads catalog name := by
  have hok (endpoints : Datum) :
      (endpointsInstances (client.knowing known configured) catalog name endpoints).isOk =
        (endpointsInstances (client.knowing known' configured') catalog name endpoints).isOk := by
    rw [endpointsInstances_knowing, endpointsInstances_knowing]
    cases endpointsSites client.settings catalog name endpoints <;> rfl
  unfold plannedReads expanded
  simp only [hok]
  rfl

/-! ## Instances at one site -/

def serviceOf (catalog : Catalog) (name : String) (i : ServiceInstance) : Datum :=
  catalog.serviceIn (i.inNamespace.getD "") name

/-- How the same instance looks with more known ports. -/
structure MoreSecure (known known' : List Int) (service : Datum)
    (i i' : ServiceInstance) : Prop where
  same : i' = { i with secure := i'.secure }
  kept : i.secure = true → i'.secure = true
  differs : i.secure ≠ i'.secure ↔ i.port ∈ known' ∧ i.port ∉ known ∧ ¬ DeclaresSecure service
  /-- Neither the absence of the mark nor another value of it has a say. -/
  secure : i.secure = true ↔ DeclaresSecure service ∨ i.port ∈ known
  secure' : i'.secure = true ↔ DeclaresSecure service ∨ i.port ∈ known'

theorem MoreSecure.of_iff {known known' : List Int} (more : known ⊆ known') {service : Datum}
    {i i' : ServiceInstance} (same : i' = { i with secure := i'.secure })
    (secure : i.secure = true ↔ DeclaresSecure service ∨ i.port ∈ known)
    (secure' : i'.secure = true ↔ DeclaresSecure service ∨ i.port ∈ known') :
    MoreSecure known known' service i i' where
  same := same
  kept h := secure'.mpr ((secure.mp h).imp_right (more ·))
  differs := by
    have hmore : i.port ∈ known → i.port ∈ known' := (more ·)
    rw [Ne, Bool.eq_iff_iff, secure, secure']
    grind
  secure := secure
  secure' := secure'

theorem moreSecure_of_fields {known known' : List Int} (more : known ⊆ known') {catalog : Catalog}
    {name : String} {site : Site} {i i' : ServiceInstance}
    (h : i.fields = site.fields (.ofInts known) catalog name)
    (h' : i'.fields = site.fields (.ofInts known') catalog name) :
    MoreSecure known known' (serviceOf catalog name i) i i' := by
  simp only [ServiceInstance.fields, ServiceInstance.metadataDatum, Site.fields, instanceFields,
    record, List.map_cons, List.map_nil, Datum.map.injEq, List.cons.injEq, Prod.mk.injEq,
    true_and, text.injEq, bool.injEq, and_true] at h h'
  obtain ⟨hid, hname, hnamespace, hhost, hport, hmetadata, hsecure⟩ := h
  obtain ⟨hid', hname', hnamespace', hhost', hport', hmetadata', hsecure'⟩ := h'
  have hin : i.inNamespace = some site.inNamespace :=
    Datum.textOrNull_injective (hnamespace.trans rfl)
  have hservice : serviceOf catalog name i = catalog.serviceIn site.inNamespace name := by
    rw [serviceOf, hin, Option.getD_some]
  refine .of_iff more (ServiceInstance.fields_injective ?_) ?_ ?_
  · simp only [ServiceInstance.fields, ServiceInstance.metadataDatum, hid, hid', hname, hname',
      hnamespace, hnamespace', hhost, hhost', hport, hport', hmetadata, hmetadata']
  · rw [hsecure, portSecure_iff hport.symm, hservice]
  · rw [hsecure', portSecure_iff hport.symm, hservice]

/-! ## Two resolutions -/

/-- Both answers are the same failure, or both are lists whose members correspond one by one. -/
def Correspond (related : ServiceInstance → ServiceInstance → Prop) :
    Except Failure (List ServiceInstance) → Except Failure (List ServiceInstance) → Prop
  | .error f, .error f' => f = f'
  | .ok instances, .ok instances' => List.Forall₂ related instances instances'
  | _, _ => False

/-- Lists of instances at the same sites. -/
theorem forall₂_of_map_eq {related : ServiceInstance → ServiceInstance → Prop}
    {view view' : Site → Datum}
    (hsite : ∀ site i i', i.fields = view site → i'.fields = view' site → related i i')
    {sites : List Site} {instances instances' : List ServiceInstance}
    (h : instances.map ServiceInstance.fields = sites.map view)
    (h' : instances'.map ServiceInstance.fields = sites.map view') :
    List.Forall₂ related instances instances' := by
  induction sites generalizing instances instances' with
  | nil =>
      rw [List.map_eq_nil_iff.mp h, List.map_eq_nil_iff.mp h']
      exact .nil
  | cons site sites ih =>
      obtain ⟨i, rest, rfl, hi, hrest⟩ := List.map_eq_cons_iff.mp h
      obtain ⟨i', rest', rfl, hi', hrest'⟩ := List.map_eq_cons_iff.mp h'
      exact .cons (hsite site i i' hi hi') (ih hrest hrest')

theorem correspond_of_sites {related : ServiceInstance → ServiceInstance → Prop}
    {view view' : Site → Datum}
    (hsite : ∀ site i i', i.fields = view site → i'.fields = view' site → related i i')
    {sites : Except Failure (List Site)} {r r' : Except Failure (List ServiceInstance)}
    (h : r.map (List.map ServiceInstance.fields) = sites.map (List.map view))
    (h' : r'.map (List.map ServiceInstance.fields) = sites.map (List.map view')) :
    Correspond related r r' := by
  cases sites <;> cases r <;> cases r' <;>
    simp only [Except.map, Except.ok.injEq, Except.error.injEq, reduceCtorEq] at h h'
  · exact h.trans h'.symm
  · exact forall₂_of_map_eq hsite h h'

/-- A call makes the planned reads, unless one of them cuts it short. -/
theorem getInstances_cut (client : DiscoveryClient) {cluster : FaultyCatalog}
    (mapped : cluster.catalog.Mapped) (readable : cluster.catalog.failure = none)
    (enabled : client.settings.enabled = true) {name : String} (named : name ≠ "") :
    let planned := client.plannedReads cluster.catalog name
    let cut := FaultyCatalog.interruption cluster.failsAt cluster.catalog.reads.length planned
    ∃ r, r.map (List.map ServiceInstance.fields) =
        (cluster.catalog.endpointsNamed client.settings.allNamespaces name).flatMapM
          (client.endpointsInstances cluster.catalog name) ∧
      RunsTo (client.getInstances FaultyCatalog.reader (.text name)) cluster
        (match cut with | none => r | some (_, f) => .error f)
        (cluster.after (match cut with | none => planned | some (made, _) => made)) := by
  intro planned cut
  have htruthy : (Datum.text name).truthy = true := by simpa [truthy] using named
  obtain ⟨r, hrun, hfields⟩ := getInstances_planned client mapped readable enabled named
  obtain ⟨r', reads, hrun', hwhole, hstop⟩ := FaultyCatalog.follows_getInstances client htruthy
    enabled cluster.catalog cluster.failsAt readable
  obtain ⟨rfl, hworld⟩ := hrun.unique hrun'
  obtain rfl : planned = reads := List.append_cancel_left (congrArg Catalog.reads hworld)
  refine ⟨r, hfields, ?_⟩
  cases hcut : cut with
  | none => exact hwhole hcut
  | some stop => exact hstop stop.1 stop.2 hcut

theorem getInstances_knowing (client : DiscoveryClient) {known known' : List Int}
    (more : known ⊆ known') (configured configured' : List Int) {cluster : FaultyCatalog}
    (mapped : cluster.catalog.Mapped) (readable : cluster.catalog.failure = none)
    (enabled : client.settings.enabled = true) {name : String} (named : name ≠ "") :
    ∃ r r' world,
      RunsTo ((client.knowing known configured).getInstances FaultyCatalog.reader (.text name))
        cluster r world ∧
      RunsTo ((client.knowing known' configured').getInstances FaultyCatalog.reader (.text name))
        cluster r' world ∧
      Correspond (fun i => MoreSecure known known' (serviceOf cluster.catalog name i) i) r r' := by
  obtain ⟨r, hfields, hrun⟩ :=
    getInstances_cut (client.knowing known configured) mapped readable enabled named
  obtain ⟨r', hfields', hrun'⟩ :=
    getInstances_cut (client.knowing known' configured') mapped readable enabled named
  rw [← plannedReads_knowing client known known' configured configured'] at hrun'
  generalize FaultyCatalog.interruption cluster.failsAt cluster.catalog.reads.length
    ((client.knowing known configured).plannedReads cluster.catalog name) = cut at hrun hrun'
  refine ⟨_, _, _, hrun, hrun', ?_⟩
  rcases cut with _ | ⟨made, f⟩
  · rw [funext (endpointsInstances_knowing client known configured cluster.catalog name),
      ← map_flatMapM] at hfields
    rw [funext (endpointsInstances_knowing client known' configured' cluster.catalog name),
      ← map_flatMapM] at hfields'
    exact correspond_of_sites (fun _ _ _ => moreSecure_of_fields more) hfields hfields'
  · exact rfl

/-- With more known secure ports a resolution makes the same reads. It ends with the same failure,
or it finds the same instances: only more of them are secure, namely those on a port that became
known whose service has neither the label nor the annotation `secured` with a value that means yes.
What ports are configured once the client is made does not count. -/
theorem known_ports_secure_more (client : DiscoveryClient) {known known' : List Int}
    (more : known ⊆ known') (configured configured' : List Int) (cluster : FaultyCatalog)
    (mapped : cluster.catalog.Mapped) (readable : cluster.catalog.failure = none)
    (name : Option String) (log : List LogEntry) (waits : List Float) :
    let call (known configured : List Int) :=
      ((client.knowing known configured).getInstances FaultyCatalog.reader (textOrNull name)).runOn
        ⟨cluster, log, waits⟩
    (call known configured).2.world = (call known' configured').2.world ∧
      Correspond
        (fun i => MoreSecure known known' (serviceOf cluster.catalog (name.getD "") i) i)
        (call known configured).1 (call known' configured').1 := by
  intro call
  cases hnamed : (textOrNull name).truthy with
  | false =>
      have hcall (known configured : List Int) : call known configured =
          (.error (.invalidArgument (.text "service_id") "must not be empty"),
            ⟨cluster, log, waits⟩) := by
        simp only [call, getInstances_unnamed _ _ hnamed]
        rfl
      rw [hcall, hcall]
      exact ⟨rfl, rfl⟩
  | true =>
      cases henabled : client.settings.enabled with
      | false =>
          have hcall (known configured : List Int) : call known configured =
              (.ok [], ⟨cluster, log, waits⟩) := by
            simp only [call]
            rw [getInstances_disabled (client.knowing known configured) _ hnamed henabled]
            rfl
          rw [hcall, hcall]
          exact ⟨rfl, .nil⟩
      | true =>
          cases name with
          | none => cases hnamed
          | some name =>
              have hname : name ≠ "" := by simpa [textOrNull, truthy] using hnamed
              obtain ⟨r, r', world, hrun, hrun', hrelated⟩ :=
                getInstances_knowing client more configured configured' mapped readable henabled
                  hname
              obtain ⟨added, hcall⟩ := hrun log waits
              obtain ⟨added', hcall'⟩ := hrun' log waits
              have hcall : call known configured = _ := hcall
              have hcall' : call known' configured' = _ := hcall'
              rw [hcall, hcall']
              exact ⟨rfl, hrelated⟩

/-- A service that is marked in two namespaces: as not secured in one, as secured in the other. -/
def markedShop : Catalog :=
  { Catalog.empty "default" with
    endpoints := [endpointsAt "web" "default" [["10.0.0.1"]] [⟨none, 443, none⟩],
      endpointsAt "web" "edge" [["10.0.1.1"]] [⟨none, 8080, none⟩]]
    services := [
      (⟨.text "default", .text "web"⟩,
        record [("labels", textMapping (some [("secured", "false")]))]),
      (⟨.text "edge", .text "web"⟩,
        record [("annotations", textMapping (some [("secured", "on")]))])] }

theorem markedShop_mapped : markedShop.Mapped where
  endpoints := by
    intro entry hentry
    simp only [markedShop, List.mem_cons, List.not_mem_nil, or_false] at hentry
    obtain rfl | rfl := hentry <;> exact Endpoints.mapped_endpoints _
  services := by
    intro entry hentry
    simp only [markedShop, List.mem_cons, List.not_mem_nil, or_false] at hentry
    obtain rfl | rfl := hentry
    · exact ⟨.record _, by simpa [fieldOf_record] using textMapping_labelling _, .inl rfl⟩
    · exact ⟨.record _, .inl rfl, by simpa [fieldOf_record] using textMapping_labelling _⟩

/-- The mark that says no does not keep port 443 from being secure once it is known. -/
theorem markedShop_knows_443 :
    let call (known : List Int) :=
      ((shopper.knowing known []).getInstances FaultyCatalog.reader (textOrNull (some "web"))).runOn
        ⟨⟨markedShop, fun _ => none⟩, [], []⟩
    let flags (answer : Except Failure (List ServiceInstance)) :=
      answer.map (List.map fun i => (i.port, i.secure))
    [80] ⊆ [80, 443] ∧ markedShop.Mapped ∧ markedShop.failure = none ∧
      Correspond (fun i => MoreSecure [80] [80, 443] (serviceOf markedShop "web" i) i)
        (call [80]).1 (call [80, 443]).1 ∧
      flags (call [80]).1 = .ok [(443, false), (8080, true)] ∧
      flags (call [80, 443]).1 = .ok [(443, true), (8080, true)] :=
  ⟨by decide, markedShop_mapped, rfl,
    (known_ports_secure_more shopper (by decide) [] [] ⟨markedShop, fun _ => none⟩ markedShop_mapped
      rfl (some "web") [] []).2, rfl, rfl⟩

end DiscoveryClient

end ClusterDiscovery
