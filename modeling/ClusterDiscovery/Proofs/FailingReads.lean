import ClusterDiscovery.Proofs.Resolution

/-! # Reads that fail

A collaborator may fail at any of its reads. A resolution of instances then makes the reads that
it makes without failures, up to the failing one, and ends with the failure of that read.
-/

namespace ClusterDiscovery

open Datum Resource ClusterDiscovery.Action

/-- A failing read is recorded as well. -/
theorem Catalog.recordRead_fails {catalog : Catalog} {f : Failure}
    (fails : catalog.failure = some f) (name : String) (arguments : List Datum) :
    RunsTo (recordRead name arguments) catalog (.error f)
      (catalog.recorded [⟨name, arguments⟩]) := by
  refine (runsTo_modifyWorld _).trans (runsTo_getWorld.trans ?_)
  have h : (catalog.recorded [⟨name, arguments⟩]).failure = some f := fails
  unfold Catalog.recorded at h ⊢
  rw [h]
  exact runsTo_of_result (r := .error f) rfl

/-- A catalog some of whose reads fail. -/
structure FaultyCatalog where
  catalog : Catalog
  /-- How the read with a number ends, if it fails. The reads are numbered as they are recorded. -/
  failsAt : Nat → Option Failure

namespace FaultyCatalog

/-- A read of the catalog that fails when its number says so. -/
def scheduled {α : Type} (read : Action Catalog α) : Action FaultyCatalog α := fun session =>
  let ⟨catalog, failsAt⟩ := session.world
  let (result, after) := read.runOn
    ⟨{ catalog with failure := failsAt catalog.reads.length }, session.log, session.waits⟩
  (result, ⟨⟨{ after.world with failure := catalog.failure }, failsAt⟩, after.log, after.waits⟩)

def reader : ClusterReader FaultyCatalog where
  ownNamespace cluster := cluster.catalog.ownNamespace
  getEndpoints name inNamespace := scheduled (Catalog.reader.getEndpoints name inNamespace)
  listEndpointsEverywhere name := scheduled (Catalog.reader.listEndpointsEverywhere name)
  getService name inNamespace := scheduled (Catalog.reader.getService name inNamespace)
  listServices everywhere labels := scheduled (Catalog.reader.listServices everywhere labels)
  keepService position service cluster :=
    { cluster with catalog := Catalog.reader.keepService position service cluster.catalog }

/-- The cluster after further reads. -/
def after (cluster : FaultyCatalog) (reads : List CatalogRead) : FaultyCatalog :=
  { cluster with catalog := cluster.catalog.recorded reads }

/-! ## The first failing read -/

/-- The reads up to the first that fails, and its failure. The first has the given number. -/
def interruption (failsAt : Nat → Option Failure) (number : Nat) :
    List CatalogRead → Option (List CatalogRead × Failure)
  | [] => none
  | read :: rest =>
    match failsAt number with
    | some f => some ([read], f)
    | none => (interruption failsAt (number + 1) rest).map fun (made, f) => (read :: made, f)

variable {failsAt : Nat → Option Failure} {number : Nat}

theorem interruption_append (first second : List CatalogRead) :
    interruption failsAt number (first ++ second) =
      match interruption failsAt number first with
      | some cut => some cut
      | none => (interruption failsAt (number + first.length) second).map
          fun (made, f) => (first ++ made, f) := by
  induction first generalizing number with
  | nil => simp [interruption]
  | cons read rest ih =>
      simp only [List.cons_append, interruption, ih, List.length_cons, Nat.add_right_comm number,
        Nat.add_assoc]
      cases failsAt number with
      | some f => rfl
      | none =>
          cases interruption failsAt (number + 1) rest with
          | some cut => rfl
          | none => simp [Function.comp_def]

theorem interruption_eq_none {reads : List CatalogRead}
    (h : ∀ k < reads.length, failsAt (number + k) = none) :
    interruption failsAt number reads = none := by
  induction reads generalizing number with
  | nil => rfl
  | cons read rest ih =>
      have hfirst : failsAt number = none := h 0 (by simp)
      have hrest : interruption failsAt (number + 1) rest = none :=
        ih fun k hk => by simpa [Nat.add_assoc, Nat.add_comm 1] using h (k + 1) (by simpa using hk)
      simp only [interruption, hfirst, hrest, Option.map_none]

theorem interruption_eq_some {reads : List CatalogRead} {k : Nat} {f : Failure}
    (hk : k < reads.length) (hfails : failsAt (number + k) = some f)
    (hbefore : ∀ j < k, failsAt (number + j) = none) :
    interruption failsAt number reads = some (reads.take (k + 1), f) := by
  induction k generalizing number reads with
  | zero =>
      cases reads with
      | nil => cases hk
      | cons read rest =>
          have hfirst : failsAt number = some f := hfails
          simp [interruption, hfirst]
  | succ k ih =>
      cases reads with
      | nil => cases hk
      | cons read rest =>
          have hfirst : failsAt number = none := hbefore 0 k.succ_pos
          have hrest : interruption failsAt (number + 1) rest = some (rest.take (k + 1), f) :=
            ih (Nat.lt_of_succ_lt_succ hk) (by rw [← hfails]; congr 1; omega) fun j hj => by
              rw [← hbefore (j + 1) (Nat.succ_lt_succ hj)]
              congr 1
              omega
          simp [interruption, hfirst, hrest]

/-! ## Runs with failing reads follow those without -/

/-- Where no read fails, the second action ends as the first does and makes the same reads. It
ends with the first failing read otherwise. -/
def Follows {α : Type} (a : Action Catalog α) (b : Action FaultyCatalog α) : Prop :=
  ∀ (catalog : Catalog) (failsAt : Nat → Option Failure), catalog.failure = none →
    ∃ r reads, RunsTo a catalog r (catalog.recorded reads) ∧
      (interruption failsAt catalog.reads.length reads = none →
        RunsTo b ⟨catalog, failsAt⟩ r ⟨catalog.recorded reads, failsAt⟩) ∧
      ∀ made f, interruption failsAt catalog.reads.length reads = some (made, f) →
        RunsTo b ⟨catalog, failsAt⟩ (.error f) ⟨catalog.recorded made, failsAt⟩

variable {α β : Type}

/-- An action that does not look at the world makes no reads. -/
theorem Follows.of_steady {a : Action Catalog α} {b : Action FaultyCatalog α}
    {r : Except Failure α} (ha : ∀ w, RunsTo a w r w) (hb : ∀ w, RunsTo b w r w) :
    Follows a b := by
  intro catalog failsAt _
  refine ⟨r, [], ?_, ?_, nofun⟩
  · rw [catalog.recorded_nil]
    exact ha catalog
  · intro _
    rw [catalog.recorded_nil]
    exact hb _

theorem Follows.pure (x : α) : Follows (Pure.pure x) (Pure.pure x) :=
  .of_steady (fun _ => runsTo_pure x) fun _ => runsTo_pure x

theorem Follows.ofReading (r : Except Fault α) :
    Follows (Action.ofReading r) (Action.ofReading r) :=
  .of_steady (fun _ => runsTo_ofReading r) fun _ => runsTo_ofReading r

theorem Follows.ofResult (r : Except Failure α) :
    Follows (Action.ofResult r) (Action.ofResult r) :=
  .of_steady (fun _ => runsTo_of_result rfl) fun _ => runsTo_of_result rfl

theorem Follows.report (entry : LogEntry) : Follows (Action.report entry) (Action.report entry) :=
  .of_steady (fun _ => runsTo_report entry) fun _ => runsTo_report entry

/-- Both actions see the same catalog. -/
theorem Follows.getWorld {f : Catalog → Action Catalog α}
    {g : FaultyCatalog → Action FaultyCatalog α}
    (h : ∀ catalog failsAt, Follows (f catalog) (g ⟨catalog, failsAt⟩)) :
    Follows (Action.getWorld >>= f) (Action.getWorld >>= g) := by
  intro catalog failsAt readable
  obtain ⟨r, reads, hrun, hwhole, hcut⟩ := h catalog failsAt catalog failsAt readable
  exact ⟨r, reads, runsTo_getWorld.trans hrun, fun h => runsTo_getWorld.trans (hwhole h),
    fun made f h => runsTo_getWorld.trans (hcut made f h)⟩

theorem Follows.bind {a : Action Catalog α} {b : Action FaultyCatalog α}
    {f : α → Action Catalog β} {g : α → Action FaultyCatalog β} (ha : Follows a b)
    (hf : ∀ x, Follows (f x) (g x)) : Follows (a >>= f) (b >>= g) := by
  intro catalog failsAt readable
  obtain ⟨r, first, hrun, hwhole, hcut⟩ := ha catalog failsAt readable
  cases r with
  | error e =>
      exact ⟨.error e, first, hrun.stop, fun h => (hwhole h).stop, fun made f h =>
        (hcut made f h).stop⟩
  | ok x =>
      obtain ⟨r, second, hrest, hwhole', hcut'⟩ := hf x (catalog.recorded first) failsAt readable
      have hcount : (catalog.recorded first).reads.length = catalog.reads.length + first.length :=
        List.length_append
      simp only [Catalog.recorded_recorded] at hrest hwhole' hcut'
      rw [hcount] at hwhole' hcut'
      refine ⟨r, first ++ second, hrun.trans hrest, ?_⟩
      rw [interruption_append]
      cases hfirst : interruption failsAt catalog.reads.length first with
      | some cut =>
          obtain ⟨made, e⟩ := cut
          refine ⟨nofun, fun _ _ h => ?_⟩
          cases h
          exact (hcut made e hfirst).stop
      | none =>
          simp only [Option.map_eq_none_iff, Option.map_eq_some_iff, Prod.mk.injEq]
          refine ⟨fun h => (hwhole hfirst).trans (hwhole' h), ?_⟩
          rintro made e ⟨⟨later, e⟩, h, rfl, rfl⟩
          exact (hwhole hfirst).trans (hcut' later e h)

theorem scheduled_runsTo {read : Action Catalog α} {catalog : Catalog}
    {failsAt : Nat → Option Failure} {r : Except Failure α} {reads : List CatalogRead}
    (h : RunsTo read { catalog with failure := failsAt catalog.reads.length } r
      (Catalog.recorded { catalog with failure := failsAt catalog.reads.length } reads)) :
    RunsTo (scheduled read) ⟨catalog, failsAt⟩ r ⟨catalog.recorded reads, failsAt⟩ := by
  intro log waits
  obtain ⟨added, hrun⟩ := h log waits
  exact ⟨added, by simp only [runOn, scheduled, ExceptT.run, StateT.run] at hrun ⊢; rw [hrun]; rfl⟩

/-- A single read, which looks at what the catalog holds. -/
theorem Follows.read (name : String) (arguments : List Datum) (view : Catalog → α) :
    let read : Action Catalog α := do
      Catalog.recordRead name arguments
      return view (← Action.getWorld)
    Follows read (scheduled read) := by
  intro read catalog failsAt readable
  have hread : RunsTo read catalog (.ok (view (catalog.recorded [⟨name, arguments⟩])))
      (catalog.recorded [⟨name, arguments⟩]) :=
    (Catalog.recordRead_runsTo readable name arguments).trans
      (runsTo_getWorld.trans (runsTo_pure _))
  refine ⟨_, _, hread, ?_⟩
  cases hfails : failsAt catalog.reads.length with
  | none =>
      have hsame : { catalog with failure := failsAt catalog.reads.length } = catalog := by
        rw [hfails, ← readable]
      refine ⟨fun _ => scheduled_runsTo (by rw [hsame]; exact hread), fun made f h => ?_⟩
      simp [interruption, hfails] at h
  | some e =>
      refine ⟨fun h => by simp [interruption, hfails] at h, fun made f h => ?_⟩
      obtain ⟨rfl, rfl⟩ : [⟨name, arguments⟩] = made ∧ e = f := by
        simpa [interruption, hfails] using h
      exact scheduled_runsTo (Catalog.recordRead_fails hfails name arguments).stop

/-! ## The resolution of instances -/

theorem follows_serviceMetadata (labels annotations : Datum) (options : MetadataSettings) :
    Follows (serviceMetadata labels annotations options)
      (serviceMetadata labels annotations options) :=
  .of_steady (fun _ => serviceMetadata_runsTo _ _ _) fun _ => serviceMetadata_runsTo _ _ _

theorem follows_portMetadata (ports : Datum) (options : MetadataSettings) :
    Follows (portMetadata ports options) (portMetadata ports options) :=
  .of_steady (fun _ => portMetadata_runsTo _ _) fun _ => portMetadata_runsTo _ _

theorem follows_expandSubset (settings : DiscoverySettings) (secure : SecurePorts)
    (context : ServiceContext) (subset : Datum) :
    Follows (expandSubset settings secure context subset)
      (expandSubset settings secure context subset) := by
  unfold expandSubset
  refine .bind (.ofReading _) fun addresses => ?_
  split
  · exact .pure []
  refine .bind (.ofReading _) fun ports => .bind (follows_portMetadata _ _) fun metadata => ?_
  refine .bind (.ofReading _) fun candidates => .bind (.ofResult _) fun port => ?_
  refine .bind (.ofReading _) fun number => .bind (.ofReading _) fun reason => ?_
  cases reason with
  | none => exact .bind (.ofReading _) fun found => .ofResult _
  | some reason =>
      exact .bind (.report _) fun _ => .bind (.ofReading _) fun found => .ofResult _

theorem follows_expandSubsets (settings : DiscoverySettings) (secure : SecurePorts)
    (context : ServiceContext) (subsets : List Datum) :
    Follows (expandSubsets settings secure context subsets)
      (expandSubsets settings secure context subsets) := by
  induction subsets with
  | nil => exact .pure []
  | cons subset rest ih =>
      exact .bind (follows_expandSubset _ _ _ _) fun first => ih.bind fun others => .pure _

theorem follows_expandFor (settings : DiscoverySettings) (secure : SecurePorts)
    (inNamespace name subsets service : Datum) :
    Follows (DiscoveryClient.expandFor settings secure inNamespace name subsets service)
      (DiscoveryClient.expandFor settings secure inNamespace name subsets service) :=
  .bind (.ofReading _) fun _ => .bind (.ofReading _) fun _ =>
    .bind (follows_serviceMetadata _ _ _) fun _ => .bind (.ofReading _) fun _ =>
    .bind (follows_expandSubsets _ _ _ _) fun _ => .bind (.report _) fun _ => .pure _

theorem follows_expand (settings : DiscoverySettings) (secure : SecurePorts)
    (inNamespace name subsets : Datum) :
    Follows (expand Catalog.reader settings secure inNamespace name subsets)
      (expand reader settings secure inNamespace name subsets) := by
  cases hsome : subsets.truthy with
  | false =>
      simp only [expand, hsome, Bool.not_false, if_true]
      exact .pure []
  | true =>
      rw [DiscoveryClient.expand_eq _ _ _ _ _ hsome, DiscoveryClient.expand_eq _ _ _ _ _ hsome]
      refine .bind (.read _ _ _) fun found => ?_
      split
      · exact .bind (.report _) fun _ => follows_expandFor _ _ _ _ _ _
      · exact follows_expandFor _ _ _ _ _ _

theorem follows_expandGroups (client : DiscoveryClient) (name : Datum)
    (groups : List SubsetGroup) :
    Follows (client.expandGroups Catalog.reader name groups)
      (client.expandGroups reader name groups) := by
  induction groups with
  | nil => exact .pure []
  | cons group rest ih =>
      exact .bind (follows_expand _ _ _ _ _) fun first => ih.bind fun others => .pure _

theorem follows_readEndpoints (everywhere : Bool) (name : Datum) (ownNamespace : String) :
    Follows (DiscoveryClient.readEndpoints Catalog.reader everywhere name ownNamespace)
      (DiscoveryClient.readEndpoints reader everywhere name ownNamespace) := by
  cases everywhere with
  | true => exact .read _ _ _
  | false => exact .bind (.read _ _ _) fun found => .pure [found]

theorem follows_getInstances (client : DiscoveryClient) {name : Datum}
    (named : name.truthy = true) (enabled : client.settings.enabled = true) :
    Follows (client.getInstances Catalog.reader name) (client.getInstances reader name) := by
  rw [client.getInstances_eq Catalog.reader named enabled,
    client.getInstances_eq reader named enabled]
  refine .getWorld fun catalog failsAt => .bind (follows_readEndpoints _ _ _) fun found => ?_
  refine .bind (.ofResult _) fun groups => .bind (follows_expandGroups _ _ _) fun instances => ?_
  exact .bind (.report _) fun _ => .pure instances

end FaultyCatalog

namespace DiscoveryClient

/-! ## The reads of a call -/

/-- The read of the service behind endpoints. Endpoints without subsets need none. -/
def serviceRead? (ownNamespace name : String) (endpoints : Datum) : Option CatalogRead :=
  if (fieldOf endpoints "subsets").items.isEmpty then none
  else some ⟨"get_service", [.text name, .text (namespaceOf ownNamespace endpoints)]⟩

/-- The collections of endpoints that are expanded: all up to the first that fails. -/
def expanded (client : DiscoveryClient) (catalog : Catalog) (name : String)
    (found : List Datum) : List Datum :=
  found.take
    ((found.takeWhile fun e => (endpointsInstances client catalog name e).isOk).length + 1)

/-- The reads that a call makes when none of them fails. -/
def plannedReads (client : DiscoveryClient) (catalog : Catalog) (name : String) :
    List CatalogRead :=
  endpointsRead client.settings.allNamespaces name catalog.ownNamespace ::
    (expanded client catalog name
      (catalog.endpointsNamed client.settings.allNamespaces name)).filterMap
        (serviceRead? catalog.ownNamespace name)

theorem groupReads_eq (ownNamespace name : String) (endpoints : Datum) :
    groupReads name (groupOf ownNamespace endpoints) =
      (serviceRead? ownNamespace name endpoints).toList := by
  unfold groupReads groupOf serviceRead?
  cases fieldOf endpoints "subsets" with
  | list subsets => cases subsets <;> rfl
  | _ => rfl

theorem expanded_cons (client : DiscoveryClient) (catalog : Catalog) (name : String)
    (endpoints : Datum) (rest : List Datum) :
    expanded client catalog name (endpoints :: rest) = endpoints ::
      match endpointsInstances client catalog name endpoints with
      | .error _ => []
      | .ok _ => expanded client catalog name rest := by
  unfold expanded
  rw [List.take_succ_cons, List.takeWhile_cons]
  cases endpointsInstances client catalog name endpoints <;> rfl

theorem serviceReads_eq (client : DiscoveryClient) (catalog : Catalog) (name : String)
    (found : List Datum) :
    serviceReads client catalog name found =
      (expanded client catalog name found).filterMap (serviceRead? catalog.ownNamespace name) := by
  induction found with
  | nil => rfl
  | cons endpoints rest ih =>
      rw [serviceReads, ih, groupReads_eq, expanded_cons]
      cases hread : serviceRead? catalog.ownNamespace name endpoints <;>
        cases endpointsInstances client catalog name endpoints <;> simp [hread]

/-- A call without failing reads makes the planned ones. -/
theorem getInstances_planned (client : DiscoveryClient) {catalog : Catalog}
    (mapped : catalog.Mapped) (readable : catalog.failure = none)
    (enabled : client.settings.enabled = true) {name : String} (named : name ≠ "") :
    ∃ r, RunsTo (getInstances client Catalog.reader (.text name)) catalog r
        (catalog.recorded (client.plannedReads catalog name)) ∧
      r.map (List.map ServiceInstance.fields) =
        (catalog.endpointsNamed client.settings.allNamespaces name).flatMapM
          (endpointsInstances client catalog name) := by
  obtain ⟨r, hrun, hfields⟩ := getInstances_runsTo client mapped readable enabled named
  rw [serviceReads_eq] at hrun
  exact ⟨r, hrun, hfields⟩

/-- A call without a name is refused, and a call of a disabled client finds nothing; neither reads
anything. Every other call reads the endpoints and then, in order, the service of every collection
that has subsets, up to the first collection whose expansion fails. When a read fails, the call
ends there with the failure of that read. -/
theorem reads_until_failure (client : DiscoveryClient) (cluster : FaultyCatalog)
    (mapped : cluster.catalog.Mapped) (readable : cluster.catalog.failure = none)
    (log : List LogEntry) (waits : List Float) :
    (∀ (World : Type) (reader : ClusterReader World) (session : Session World) (name : Datum),
      (name.truthy = false → (client.getInstances reader name).runOn session =
        (.error (.invalidArgument (.text "service_id") "must not be empty"), session)) ∧
      (name.truthy = true → client.settings.enabled = false →
        (client.getInstances reader name).runOn session = (.ok [], session))) ∧
    ∀ name, name ≠ "" → client.settings.enabled = true →
      let call := (client.getInstances FaultyCatalog.reader (.text name)).runOn
        ⟨cluster, log, waits⟩
      let planned := client.plannedReads cluster.catalog name
      let failure (k : Nat) := cluster.failsAt (cluster.catalog.reads.length + k)
      ((∀ k < planned.length, failure k = none) →
        call.2.world = cluster.after planned ∧
          call.1.map (List.map ServiceInstance.fields) =
            (cluster.catalog.endpointsNamed client.settings.allNamespaces name).flatMapM
              (client.endpointsInstances cluster.catalog name)) ∧
      ∀ k < planned.length, ∀ f, failure k = some f → (∀ j < k, failure j = none) →
        call.2.world = cluster.after (planned.take (k + 1)) ∧ call.1 = .error f := by
  refine ⟨fun World reader session name => ⟨fun unnamed => ?_, fun named disabled => ?_⟩, ?_⟩
  · simp only [getInstances, unnamed]
    rfl
  · simp only [getInstances, named, disabled]
    rfl
  intro name named enabled call planned failure
  have htruthy : (Datum.text name).truthy = true := by simpa [truthy] using named
  obtain ⟨r, hrun, hfields⟩ := getInstances_planned client mapped readable enabled named
  obtain ⟨r', reads, hrun', hwhole, hcut⟩ := FaultyCatalog.follows_getInstances client htruthy
    enabled cluster.catalog cluster.failsAt readable
  obtain ⟨rfl, rfl⟩ : r = r' ∧ planned = reads := by
    obtain ⟨added, h⟩ := hrun [] []
    obtain ⟨added', h'⟩ := hrun' [] []
    rw [h, Prod.mk.injEq, Session.mk.injEq] at h'
    exact ⟨h'.1, List.append_cancel_left (congrArg Catalog.reads h'.2.1)⟩
  constructor
  · intro h
    obtain ⟨added, hcall⟩ := hwhole (FaultyCatalog.interruption_eq_none h) log waits
    have hcall : call = _ := hcall
    rw [hcall]
    exact ⟨rfl, hfields⟩
  · intro k hk f hfails hbefore
    obtain ⟨added, hcall⟩ :=
      hcut _ _ (FaultyCatalog.interruption_eq_some hk hfails hbefore) log waits
    have hcall : call = _ := hcall
    rw [hcall]
    exact ⟨rfl, rfl⟩

/-- The shop, whose third read fails. -/
def failingShop : FaultyCatalog :=
  ⟨shop, fun k => if k = 2 then some (.collaborator "services" "forbidden" (.int 403) []) else none⟩

/-- The instances of the first namespace are not returned when the service of the second cannot
be read. -/
theorem third_read_fails :
    failingShop.catalog.Mapped ∧ failingShop.catalog.failure = none ∧
      let call := (shopper.getInstances FaultyCatalog.reader (.text "web")).runOn
        ⟨failingShop, [], []⟩
      call.1 = .error (.collaborator "services" "forbidden" (.int 403) []) ∧
        call.2.world.catalog.reads =
          [⟨"list_endpoints_for_all_namespaces", [.text "web"]⟩,
            ⟨"get_service", [.text "web", .text "default"]⟩,
            ⟨"get_service", [.text "web", .text "edge"]⟩] := by
  obtain ⟨hworld, hresult⟩ := ((reads_until_failure shopper failingShop shop_mapped rfl [] []).2
    "web" (by decide) rfl).2 2 (by decide) _ rfl (by decide)
  refine ⟨shop_mapped, rfl, hresult, ?_⟩
  rw [hworld]
  rfl

end DiscoveryClient

end ClusterDiscovery
