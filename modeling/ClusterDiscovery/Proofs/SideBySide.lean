import ClusterDiscovery.Proofs.Listing
import ClusterDiscovery.Proofs.Namespaces

/-! # Two sessions side by side

Two clients are compared call by call. As long as their settings agree in what a call reads and
their catalogs hold the same, they make the same reads and reports and end alike. What the catalogs
recorded before plays no part, and neither does the last listing once there is a new one.
-/

namespace ClusterDiscovery

open Datum ClusterDiscovery.Action

/-! ## Sessions and actions -/

namespace Catalog

/-- Two catalogs differ at most in the reads that they recorded and in their last listing. -/
structure Alike (catalog catalog' : Catalog) : Prop where
  own : catalog.ownNamespace = catalog'.ownNamespace
  endpoints : catalog.endpoints = catalog'.endpoints
  services : catalog.services = catalog'.services
  failure : catalog.failure = catalog'.failure

/-- What calls leave as it is in a catalog. A filter may change the services that it looks at, but
it does not add, remove or move any. -/
structure Kept (catalog catalog' : Catalog) : Prop where
  own : catalog'.ownNamespace = catalog.ownNamespace
  endpoints : catalog'.endpoints = catalog.endpoints
  serviceKeys : catalog'.services.map (·.1) = catalog.services.map (·.1)
  failure : catalog'.failure = catalog.failure

end Catalog

theorem Catalog.Alike.refl (catalog : Catalog) : catalog.Alike catalog := ⟨rfl, rfl, rfl, rfl⟩

theorem Catalog.Kept.refl (catalog : Catalog) : catalog.Kept catalog := ⟨rfl, rfl, rfl, rfl⟩

theorem Catalog.Kept.trans {first second third : Catalog} (h : first.Kept second)
    (h' : second.Kept third) : first.Kept third :=
  ⟨h'.own.trans h.own, h'.endpoints.trans h.endpoints, h'.serviceKeys.trans h.serviceKeys,
    h'.failure.trans h.failure⟩

/-- Two sessions that started on these catalogs have come the same way. If `listed`, the way led
over a listing. -/
structure Parallel (start start' : Catalog) (listed : Bool) (s s' : Session Catalog) : Prop where
  alike : s.world.Alike s'.world
  kept : start.Kept s.world
  reads : ∃ made, s.world.reads = start.reads ++ made ∧ s'.world.reads = start'.reads ++ made
  listing : listed = true → s.world.listing = s'.world.listing
  log : s.log = s'.log

/-- From parallel sessions both actions come to the same result, and to parallel sessions. An
action that fails need not come to a listing. -/
def Lockstep (start start' : Catalog) {α : Type} (listed : Bool)
    (a b : Action Catalog α) (listed' : Bool) : Prop :=
  ∀ s s', Parallel start start' listed s s' → ∃ r t t', a.runOn s = (r, t) ∧
    b.runOn s' = (r, t') ∧ Parallel start start' (listed' && r.isOk) t t'

variable {start start' : Catalog} {listed listed' listed'' : Bool} {α β : Type}

/-- Sessions that start on catalogs that hold the same are parallel. -/
theorem Parallel.ofAlike (h : start.Alike start') :
    Parallel start start' false (.start start) (.start start') :=
  ⟨h, .refl start, ⟨[], by simp [Session.start]⟩, nofun, rfl⟩

theorem Parallel.weaken {s s' : Session Catalog} (h : Parallel start start' listed s s') :
    Parallel start start' false s s' :=
  ⟨h.alike, h.kept, h.reads, nofun, h.log⟩

theorem Parallel.and_isOk {s s' : Session Catalog} (h : Parallel start start' listed s s')
    (r : Except Failure α) : Parallel start start' (listed && r.isOk) s s' := by
  cases r with
  | error f => simpa [Except.isOk, Except.toBool] using h.weaken
  | ok x => simpa [Except.isOk, Except.toBool] using h

theorem Lockstep.ofResult (r : Except Failure α) :
    Lockstep start start' listed (Action.ofResult r) (Action.ofResult r) listed :=
  fun s s' h => ⟨r, s, s', by cases r <;> rfl, by cases r <;> rfl, h.and_isOk r⟩

theorem Lockstep.pure (x : α) :
    Lockstep start start' listed (Pure.pure x) (Pure.pure x) listed :=
  .ofResult (.ok x)

theorem Lockstep.ofReading (r : Except Fault α) :
    Lockstep start start' listed (Action.ofReading r) (Action.ofReading r) listed := by
  cases r with
  | error f => exact .ofResult (.error (.fault f))
  | ok x => exact .ofResult (.ok x)

theorem Lockstep.report (entry : LogEntry) :
    Lockstep start start' listed (Action.report entry) (Action.report entry) listed := by
  intro s s' h
  have hlog : s.log ++ [entry] = s'.log ++ [entry] := by rw [h.log]
  have hparallel : Parallel start start' listed { s with log := s.log ++ [entry] }
      { s' with log := s'.log ++ [entry] } := ⟨h.alike, h.kept, h.reads, h.listing, hlog⟩
  exact ⟨.ok (), _, _, rfl, rfl, hparallel.and_isOk (Except.ok ())⟩

/-- Changes of both worlds that keep them parallel. -/
theorem Lockstep.modifyWorld {change change' : Catalog → Catalog}
    (h : ∀ s s', Parallel start start' listed s s' → Parallel start start' listed'
      { s with world := change s.world } { s' with world := change' s'.world }) :
    Lockstep start start' listed (Action.modifyWorld change) (Action.modifyWorld change')
      listed' :=
  fun s s' hs => ⟨.ok (), _, _, rfl, rfl, (h s s' hs).and_isOk (Except.ok ())⟩

theorem Lockstep.bind {a b : Action Catalog α} {f g : α → Action Catalog β}
    (h : Lockstep start start' listed a b listed')
    (hf : ∀ x, Lockstep start start' listed' (f x) (g x) listed'') :
    Lockstep start start' listed (a >>= f) (b >>= g) listed'' := by
  intro s s' hs
  obtain ⟨r, t, t', ha, hb, hparallel⟩ := h s s' hs
  rw [bind_runOn, bind_runOn, ha, hb]
  cases r with
  | error e =>
      refine ⟨.error e, t, t', rfl, rfl, ?_⟩
      simpa [Except.isOk, Except.toBool] using hparallel.weaken
  | ok x =>
      rw [show (listed' && (Except.ok x : Except Failure α).isOk) = listed' from
        Bool.and_true _] at hparallel
      exact hf x t t' hparallel

theorem Lockstep.forget {a b : Action Catalog α} (h : Lockstep start start' listed a b true) :
    Lockstep start start' listed a b false := by
  intro s s' hs
  obtain ⟨r, t, t', ha, hb, hparallel⟩ := h s s' hs
  exact ⟨r, t, t', ha, hb, hparallel.weaken⟩

/-- What both sides take from the catalog is the same. -/
theorem Lockstep.getWorld {f g : Catalog → Action Catalog β}
    (h : ∀ catalog catalog', catalog.Alike catalog' →
      Lockstep start start' listed (f catalog) (g catalog') listed') :
    Lockstep start start' listed (Action.getWorld >>= f) (Action.getWorld >>= g) listed' :=
  fun s s' hs => h s.world s'.world hs.alike s s' hs

theorem Lockstep.recordRead (name : String) (arguments : List Datum) :
    Lockstep start start' listed (Catalog.recordRead name arguments)
      (Catalog.recordRead name arguments) listed := by
  have hrecord : Lockstep start start' listed
      (Action.modifyWorld fun catalog =>
        { catalog with reads := catalog.reads ++ [⟨name, arguments⟩] })
      (Action.modifyWorld fun catalog =>
        { catalog with reads := catalog.reads ++ [⟨name, arguments⟩] }) listed := by
    refine .modifyWorld fun s s' h => ?_
    obtain ⟨made, hmade, hmade'⟩ := h.reads
    refine ⟨⟨h.alike.own, h.alike.endpoints, h.alike.services, h.alike.failure⟩,
      ⟨h.kept.own, h.kept.endpoints, h.kept.serviceKeys, h.kept.failure⟩,
      ⟨made ++ [⟨name, arguments⟩], ?_, ?_⟩, h.listing, h.log⟩
    · rw [← List.append_assoc, ← hmade]
    · rw [← List.append_assoc, ← hmade']
  refine hrecord.bind fun _ => .getWorld fun catalog catalog' halike => ?_
  rw [halike.failure]
  cases catalog'.failure with
  | none => exact .pure ()
  | some f => exact .ofResult (.error f)

/-- A read whose answer depends on what the catalog holds. -/
theorem Lockstep.read (name : String) (arguments : List Datum) {view : Catalog → α}
    (hview : ∀ catalog catalog', catalog.Alike catalog' → view catalog = view catalog') :
    let read : Action Catalog α := do
      Catalog.recordRead name arguments
      return view (← Action.getWorld)
    Lockstep start start' listed read read listed :=
  (Lockstep.recordRead name arguments).bind fun _ => .getWorld fun catalog catalog' halike => by
    rw [hview catalog catalog' halike]
    exact .pure _

/-! ## The resolution of instances -/

/-- Settings agree in what a call reads of them. -/
structure DiscoverySettings.Agree (settings settings' : DiscoverySettings) : Prop where
  enabled : settings.enabled = settings'.enabled
  allNamespaces : settings.allNamespaces = settings'.allNamespaces
  serviceLabels : settings.serviceLabels = settings'.serviceLabels
  primaryPortName : settings.primaryPortName = settings'.primaryPortName
  metadata : settings.metadata = settings'.metadata

/-- Clients that cannot be told apart by their calls. -/
structure DiscoveryClient.Agree (client client' : DiscoveryClient) : Prop where
  settings : client.settings.Agree client'.settings
  secure : client.secure = client'.secure
  filter : client.filter = client'.filter

theorem DiscoverySettings.Agree.refl (settings : DiscoverySettings) : settings.Agree settings :=
  ⟨rfl, rfl, rfl, rfl, rfl⟩

theorem DiscoveryClient.Agree.refl (client : DiscoveryClient) : client.Agree client :=
  ⟨.refl _, rfl, rfl⟩

theorem lockstep_sourceEntries (enabled : Bool) (event : String)
    (entries : Except Fault (List (Datum × Datum))) :
    Lockstep start start' listed (sourceEntries enabled event entries)
      (sourceEntries enabled event entries) listed := by
  unfold sourceEntries
  split
  · exact .pure []
  · exact .bind (.ofReading _) fun found => .bind (.report _) fun _ => .pure found

theorem lockstep_serviceMetadata (labels annotations : Datum) (options : MetadataSettings) :
    Lockstep start start' listed (serviceMetadata labels annotations options)
      (serviceMetadata labels annotations options) listed :=
  .bind (lockstep_sourceEntries _ _ _) fun _ => .bind (lockstep_sourceEntries _ _ _) fun _ =>
    .pure _

variable {settings settings' : DiscoverySettings} {client client' : DiscoveryClient}

theorem lockstep_expandSubset (agree : settings.Agree settings') (secure : SecurePorts)
    (context : ServiceContext) (subset : Datum) :
    Lockstep start start' listed (expandSubset settings secure context subset)
      (expandSubset settings' secure context subset) listed := by
  unfold expandSubset
  rw [agree.primaryPortName, agree.metadata]
  refine .bind (.ofReading _) fun addresses => ?_
  split
  · exact .pure []
  refine .bind (.ofReading _) fun ports => .bind (lockstep_sourceEntries _ _ _) fun metadata => ?_
  refine .bind (.ofReading _) fun candidates => .bind (.ofResult _) fun port => ?_
  refine .bind (.ofReading _) fun number => .bind (.ofReading _) fun reason => ?_
  cases reason with
  | none => exact .bind (.ofReading _) fun found => .ofResult _
  | some reason =>
      exact .bind (.report _) fun _ => .bind (.ofReading _) fun found => .ofResult _

theorem lockstep_expandSubsets (agree : settings.Agree settings') (secure : SecurePorts)
    (context : ServiceContext) (subsets : List Datum) :
    Lockstep start start' listed (expandSubsets settings secure context subsets)
      (expandSubsets settings' secure context subsets) listed := by
  induction subsets with
  | nil => exact .pure []
  | cons subset rest ih =>
      exact .bind (lockstep_expandSubset agree _ _ _) fun first => ih.bind fun others => .pure _

theorem lockstep_expandFor (agree : settings.Agree settings') (secure : SecurePorts)
    (inNamespace name subsets service : Datum) :
    Lockstep start start' listed
      (DiscoveryClient.expandFor settings secure inNamespace name subsets service)
      (DiscoveryClient.expandFor settings' secure inNamespace name subsets service) listed := by
  unfold DiscoveryClient.expandFor
  rw [agree.metadata]
  refine .bind (.ofReading _) fun labels => .bind (.ofReading _) fun annotations => ?_
  refine .bind (lockstep_serviceMetadata _ _ _) fun metadata => .bind (.ofReading _) fun found => ?_
  exact .bind (lockstep_expandSubsets agree _ _ _) fun _ => .bind (.report _) fun _ => .pure _

/-- Catalogs that hold the same find the same. -/
theorem Catalog.Alike.keyIn {catalog catalog' : Catalog} (h : catalog.Alike catalog')
    (inNamespace name : Datum) :
    catalog.keyIn inNamespace name = catalog'.keyIn inNamespace name := by
  unfold Catalog.keyIn
  rw [h.own]

theorem lockstep_getService (name inNamespace : Datum) :
    Lockstep start start' listed (Catalog.reader.getService name inNamespace)
      (Catalog.reader.getService name inNamespace) listed := by
  refine .read _ _ fun catalog catalog' h => ?_
  rw [h.keyIn, h.services]

theorem lockstep_expand (agree : settings.Agree settings') (secure : SecurePorts)
    (inNamespace name subsets : Datum) :
    Lockstep start start' listed
      (expand Catalog.reader settings secure inNamespace name subsets)
      (expand Catalog.reader settings' secure inNamespace name subsets) listed := by
  cases hsome : subsets.truthy with
  | false =>
      simp only [expand, hsome, Bool.not_false, if_true]
      exact .pure []
  | true =>
      rw [DiscoveryClient.expand_eq _ _ _ _ _ hsome, DiscoveryClient.expand_eq _ _ _ _ _ hsome]
      refine .bind (lockstep_getService _ _) fun found => ?_
      split
      · exact .bind (.report _) fun _ => lockstep_expandFor agree _ _ _ _ _
      · exact lockstep_expandFor agree _ _ _ _ _

theorem lockstep_expandGroups (agree : client.Agree client') (name : Datum)
    (groups : List SubsetGroup) :
    Lockstep start start' listed (client.expandGroups Catalog.reader name groups)
      (client'.expandGroups Catalog.reader name groups) listed := by
  induction groups with
  | nil => exact .pure []
  | cons group rest ih =>
      unfold DiscoveryClient.expandGroups
      rw [agree.secure]
      exact .bind (lockstep_expand agree.settings _ _ _ _) fun first => ih.bind fun _ => .pure _

theorem lockstep_readEndpoints (everywhere : Bool) (name : Datum) (ownNamespace : String) :
    Lockstep start start' listed
      (DiscoveryClient.readEndpoints Catalog.reader everywhere name ownNamespace)
      (DiscoveryClient.readEndpoints Catalog.reader everywhere name ownNamespace) listed := by
  cases everywhere with
  | true =>
      refine .read _ _ fun catalog catalog' h => ?_
      rw [h.endpoints]
  | false =>
      refine .bind (.read _ _ fun catalog catalog' h => ?_) fun found => .pure [found]
      rw [h.keyIn, h.endpoints]

theorem lockstep_getInstances (agree : client.Agree client') (name : Datum) :
    Lockstep start start' listed (client.getInstances Catalog.reader name)
      (client'.getInstances Catalog.reader name) listed := by
  cases named : name.truthy with
  | false =>
      rw [client.getInstances_unnamed _ named, client'.getInstances_unnamed _ named]
      exact .ofResult (.error (.invalidArgument (.text "service_id") "must not be empty"))
  | true =>
      cases enabled : client'.settings.enabled with
      | false =>
          rw [client.getInstances_disabled _ named (agree.settings.enabled.trans enabled),
            client'.getInstances_disabled _ named enabled]
          exact .pure []
      | true =>
          rw [client.getInstances_eq _ named (agree.settings.enabled.trans enabled),
            client'.getInstances_eq _ named enabled, agree.settings.allNamespaces]
          refine .getWorld fun catalog catalog' h => ?_
          rw [show Catalog.reader.ownNamespace catalog = Catalog.reader.ownNamespace catalog' from
            h.own]
          refine .bind (lockstep_readEndpoints _ _ _) fun found => .bind (.ofResult _) fun _ => ?_
          refine .bind (lockstep_expandGroups agree _ _) fun instances => ?_
          exact .bind (.report _) fun _ => .pure instances

/-! ## The listing of services -/

theorem Catalog.Alike.listed_eq {catalog catalog' : Catalog} (h : catalog.Alike catalog')
    (everywhere : Bool) (labels : List (Datum × Datum)) :
    catalog.listed everywhere labels 0 catalog.services =
      catalog'.listed everywhere labels 0 catalog'.services := by
  rw [h.services]
  exact Catalog.listed_congr h.own everywhere labels 0 catalog'.services

/-- A listing takes the place of the last one, so that only the new one counts. -/
theorem lockstep_listServices (everywhere : Bool) (labels : Datum) :
    Lockstep start start' false (Catalog.reader.listServices everywhere labels)
      (Catalog.reader.listServices everywhere labels) true := by
  refine .bind (.recordRead _ _) fun _ => ?_
  intro s s' h
  have hlisted := h.alike.listed_eq everywhere (Catalog.labelEntries labels)
  simp only [bind_runOn, show ∀ t : Session Catalog, Action.getWorld.runOn t = (.ok t.world, t)
    from fun _ => rfl, hlisted]
  cases s'.world.listed everywhere (Catalog.labelEntries labels) 0 s'.world.services with
  | error f => exact ⟨_, s, s', rfl, rfl, h⟩
  | ok found =>
      refine ⟨.ok (found.map (·.2)), _, _, rfl, rfl, ?_⟩
      exact ⟨⟨h.alike.own, h.alike.endpoints, h.alike.services, h.alike.failure⟩,
        ⟨h.kept.own, h.kept.endpoints, h.kept.serviceKeys, h.kept.failure⟩, h.reads,
        fun _ => rfl, h.log⟩

theorem modify_keys (entries : List CatalogEntry) (place : Nat) (service : Datum) :
    (entries.modify place fun e => (e.1, service)).map (·.1) = entries.map (·.1) := by
  refine List.ext_getElem? fun i => ?_
  rw [List.getElem?_map, List.getElem?_map, List.getElem?_modify]
  cases entries[i]? with
  | none => rfl
  | some entry => by_cases h : place = i <;> simp [h]

theorem lockstep_keepService (position : Nat) (service : Datum) :
    Lockstep start start' true
      (Action.modifyWorld (Catalog.reader.keepService position service))
      (Action.modifyWorld (Catalog.reader.keepService position service)) true := by
  refine .modifyWorld fun s s' h => ?_
  unfold Catalog.reader
  simp only [h.listing rfl]
  cases s'.world.listing[position]? with
  | none => exact h
  | some place =>
      refine ⟨⟨h.alike.own, h.alike.endpoints, ?_, h.alike.failure⟩,
        ⟨h.kept.own, h.kept.endpoints, ?_, h.kept.failure⟩, h.reads, fun _ => rfl, h.log⟩
      · rw [h.alike.services]
      · rw [← h.kept.serviceKeys]
        exact modify_keys _ _ _

theorem lockstep_reports (entries : List LogEntry) :
    Lockstep start start' listed (entries.forM Action.report) (entries.forM Action.report)
      listed := by
  induction entries with
  | nil => exact .pure ()
  | cons entry rest ih => exact .bind (.report entry) fun _ => ih

theorem lockstep_filteredNames (f : ServiceFilter) (position : Nat) (services : List Datum) :
    Lockstep start start' true
      (DiscoveryClient.filteredNames Catalog.reader f position services)
      (DiscoveryClient.filteredNames Catalog.reader f position services) true := by
  induction services generalizing position with
  | nil => exact .pure []
  | cons service rest ih =>
      unfold DiscoveryClient.filteredNames
      refine .bind (lockstep_reports _) fun _ => .bind (lockstep_keepService _ _) fun _ => ?_
      refine .bind (.ofReading _) fun holds => ?_
      split
      · exact .bind (.ofReading _) fun name => .bind (ih _) fun names => .pure _
      · exact ih _

theorem lockstep_testedNames (holds : Datum → Except Failure Bool) (services : List Datum) :
    Lockstep start start' listed (DiscoveryClient.testedNames holds services)
      (DiscoveryClient.testedNames holds services) listed := by
  induction services with
  | nil => exact .pure []
  | cons service rest ih =>
      unfold DiscoveryClient.testedNames
      refine .bind (.ofResult _) fun passes => ?_
      split
      · exact .bind (.ofReading _) fun name => ih.bind fun names => .pure _
      · exact ih

theorem lockstep_namesBy {f : ServiceFilter} {predicate : ServicePredicate}
    {names : List Datum → Action Catalog (List Datum)}
    (h : DiscoveryClient.namesBy Catalog.reader f predicate = .ok names) (services : List Datum) :
    Lockstep start start' true (names services) (names services) true := by
  obtain ⟨holds, rfl⟩ | ⟨filter, rfl⟩ := DiscoveryClient.namesBy_cases h
  · exact lockstep_testedNames _ _
  · exact lockstep_filteredNames _ _ _

theorem lockstep_getServices (agree : client.Agree client') (predicate : ServicePredicate) :
    Lockstep start start' false (client.getServices Catalog.reader predicate)
      (client'.getServices Catalog.reader predicate) false := by
  cases enabled : client'.settings.enabled with
  | false =>
      rw [client.getServices_disabled _ _ (agree.settings.enabled.trans enabled),
        client'.getServices_disabled _ _ enabled]
      exact .pure []
  | true =>
      have hlabels : client.settings.labelsDatum = client'.settings.labelsDatum := by
        unfold DiscoverySettings.labelsDatum
        rw [agree.settings.serviceLabels]
      rw [client.getServices_eq _ _ (agree.settings.enabled.trans enabled),
        client'.getServices_eq _ _ enabled, agree.filter, agree.settings.allNamespaces, hlabels]
      cases hnames : DiscoveryClient.namesBy Catalog.reader client'.filter predicate with
      | error f => exact .ofResult (.error f)
      | ok names =>
          simp only [Action.ofResult, pure_bind]
          refine Lockstep.forget (.bind (lockstep_listServices _ _) fun services => ?_)
          exact .bind (lockstep_namesBy hnames services) fun found => .bind (.report _) fun _ =>
            .pure found

end ClusterDiscovery
