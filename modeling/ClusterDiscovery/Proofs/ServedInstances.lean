import ClusterDiscovery.CommandLine.Program
import ClusterDiscovery.Proofs.ClusterReads
import ClusterDiscovery.Proofs.Resolution

/-! # Instances of a service that is served

The command for instances, run where every request is answered: the endpoints and the service are
those of one service. The command prints the instances of all subsets, or it fails as the first
subset without instances does.
-/

namespace ClusterDiscovery

open Datum Resource ClusterDiscovery.Action

/-- An interface that serves one service and its endpoints, whatever it is asked for. -/
def servingApi (endpoints : Endpoints) (service : Service) : ClusterApi Unit where
  readEndpoints _ _ := pure endpoints
  listEndpoints _ := pure [endpoints]
  listEndpointsEverywhere _ := pure [endpoints]
  readService _ _ := pure service
  listServices _ _ := pure [service]
  listServicesEverywhere _ := pure [service]
  readPod _ _ := throw Cluster.notFound
  getResources := pure ()
  loadInCluster := pure ()
  loadKubeconfigData _ _ := pure ()
  loadKubeconfig _ _ := pure ()

def servingSurroundings (endpoints : Endpoints) (service : Service) (environment : Environment) :
    Surroundings Unit where
  environment := environment
  account := .absent
  api := servingApi endpoints service
  watchIsOver _ := true
  mostPolls := 0

/-- What succeeds is not repeated. -/
theorem retrying_runsTo {World α : Type} {w w' : World} {action : Action World α} {x : α}
    (h : action.RunsTo w (.ok x) w') : (retrying {} action).RunsTo w (.ok x) w' :=
  h.outcome.trans (runsTo_pure x)

section Client

variable (endpoints : Endpoints) {service : Service} {client : KubernetesClient} {record : Datum}

theorem getEndpoints_served (connected : client.hasApi = true) (name inNamespace : Datum) :
    RunsTo (client.getEndpoints (servingApi endpoints service) name inNamespace) ()
      (.ok endpoints.mapped) () := by
  have hread : RunsTo (do
      return ((← (servingApi endpoints service).readEndpoints name
        (client.namespaceOr inNamespace)).mapped : Datum)) ()
      (ApiAnswer.response endpoints.mapped).toResult () :=
    (runsTo_pure endpoints).trans (runsTo_pure _)
  exact retrying_runsTo (KubernetesClient.askOne_runsTo connected _ _ _ hread)

theorem getService_served (connected : client.hasApi = true)
    (hservice : service.mapped = .ok record) (name inNamespace : Datum) :
    RunsTo (client.getService (servingApi endpoints service) name inNamespace) ()
      (.ok record) () := by
  have hread : RunsTo (do
      KubernetesClient.mappedService (← (servingApi endpoints service).readService name
        (client.namespaceOr inNamespace))) () (ApiAnswer.response record).toResult () :=
    (runsTo_pure service).trans (runsTo_of_read hservice)
  exact retrying_runsTo (KubernetesClient.askOne_runsTo connected _ _ _ hread)

theorem connect_served (service : Service) (nodata : client.kubeconfigData = none) :
    ∃ connected, RunsTo (client.connect (servingApi endpoints service)) () (.ok connected) () ∧
      connected.hasApi = true := by
  have hload : ∃ loaded,
      RunsTo (client.loadConfiguration (servingApi endpoints service)) () (.ok loaded) () := by
    unfold KubernetesClient.loadConfiguration
    simp only [nodata, Option.filter_none]
    split
    · exact ⟨_, (runsTo_pure ()).trans ((runsTo_report _).trans (runsTo_pure _))⟩
    · split
      · exact ⟨_, (runsTo_pure ()).trans ((runsTo_report _).trans (runsTo_pure _))⟩
      · exact ⟨_, (runsTo_pure ()).trans ((runsTo_report _).trans (runsTo_pure _))⟩
  obtain ⟨loaded, hload⟩ := hload
  exact ⟨_, hload.outcome.trans ((runsTo_report _).trans (runsTo_pure _)), rfl⟩

variable (discovery : DiscoveryClient) {subsets : List EndpointSubset} {name : String}

/-- All subsets are expanded for the service that is served. -/
theorem expand_served (connected : client.hasApi = true) (hservice : service.mapped = .ok record)
    (nonempty : subsets ≠ []) (name inNamespace : String) :
    ∃ r, RunsTo (expand (client.reader (servingApi endpoints service)) discovery.settings
        discovery.secure (.text inNamespace) (.text name)
        (.list (subsets.map EndpointSubset.mapped))) () r () ∧
      r.map (List.map ServiceInstance.fields) = (subsets.map EndpointSubset.mapped).flatMapM
        (subsetInstances discovery.settings discovery.secure name inNamespace record) := by
  have htruthy : (Datum.list (subsets.map EndpointSubset.mapped)).truthy = true := by
    simpa [truthy] using nonempty
  have hmapped : ∀ subset ∈ subsets.map EndpointSubset.mapped, MappedSubset subset := by
    intro subset hsubset
    obtain ⟨raw, -, rfl⟩ := List.mem_map.mp hsubset
    exact raw.mapped_subset
  have hrecord : MappedService record := Service.mapped_service hservice
  have hsome : record.isNull = false := by
    obtain ⟨entries, hentries⟩ := hrecord.mapping
    rw [hentries]
    rfl
  obtain ⟨r, hrun, hfields⟩ :=
    DiscoveryClient.expandFor_runsTo discovery.settings discovery.secure name inNamespace hrecord
      hmapped
  refine ⟨r, ?_, hfields⟩
  rw [DiscoveryClient.expand_eq _ _ _ _ _ htruthy]
  refine (getService_served endpoints connected hservice _ _).trans ?_
  rw [hsome]
  exact hrun

theorem getInstances_served (connected : client.hasApi = true)
    (hservice : service.mapped = .ok record) (hsubsets : endpoints.subsets = some subsets)
    (nonempty : subsets ≠ []) (enabled : discovery.settings.enabled = true)
    (single : discovery.settings.allNamespaces = false) (named : name ≠ "") :
    ∃ inNamespace, ∃ r : Except Failure (List ServiceInstance), RunsTo (discovery.getInstances
        (client.reader (servingApi endpoints service)) (.text name)) () r () ∧
      r.map (List.map ServiceInstance.fields) = (subsets.map EndpointSubset.mapped).flatMapM
        (subsetInstances discovery.settings discovery.secure name inNamespace record) := by
  have htruthy : (Datum.text name).truthy = true := by simpa [truthy] using named
  have hgroup : DiscoveryClient.groupOf client.ownNamespace endpoints.mapped =
      ⟨DiscoveryClient.namespaceOf client.ownNamespace endpoints.mapped,
        subsets.map EndpointSubset.mapped⟩ := by
    have hfield : fieldOf endpoints.mapped "subsets" =
        .list (subsets.map EndpointSubset.mapped) := by
      simp [Endpoints.mapped, fieldOf_record, hsubsets]
    unfold DiscoveryClient.groupOf
    rw [hfield]
    rfl
  have hgroups : ([endpoints.mapped].mapM fun e =>
      DiscoveryClient.subsetGroup e client.ownNamespace) =
        .ok [⟨DiscoveryClient.namespaceOf client.ownNamespace endpoints.mapped,
          subsets.map EndpointSubset.mapped⟩] := by
    rw [List.mapM_cons, DiscoveryClient.subsetGroup_eq (.inr endpoints.mapped_endpoints), hgroup]
    rfl
  have hfound : RunsTo (DiscoveryClient.readEndpoints
      (client.reader (servingApi endpoints service)) false (.text name) client.ownNamespace) ()
      (.ok [endpoints.mapped]) () :=
    (getEndpoints_served endpoints connected _ _).trans (runsTo_pure _)
  obtain ⟨r, hrun, hfields⟩ := expand_served endpoints discovery connected hservice nonempty name
    (DiscoveryClient.namespaceOf client.ownNamespace endpoints.mapped)
  refine ⟨_, r, ?_, hfields⟩
  rw [DiscoveryClient.getInstances_eq _ _ htruthy enabled, single]
  refine runsTo_getWorld.trans (hfound.trans ((runsTo_of_result hgroups).trans ?_))
  cases r with
  | error f => exact hrun.stop.stop
  | ok instances =>
      have hall : RunsTo (discovery.expandGroups (client.reader (servingApi endpoints service))
          (.text name) [⟨DiscoveryClient.namespaceOf client.ownNamespace endpoints.mapped,
            subsets.map EndpointSubset.mapped⟩]) () (.ok (instances ++ [])) () :=
        hrun.trans ((runsTo_pure []).trans (runsTo_pure _))
      rw [List.append_nil] at hall
      exact hall.trans ((runsTo_report _).trans (runsTo_pure instances))

end Client

/-- The command prints the instances of all subsets, unless one of them has none. -/
theorem findInstances_served {endpoints : Endpoints} {service : Service} {record : Datum}
    {settings : Settings} {discovery : DiscoveryClient} {subsets : List EndpointSubset}
    (environment : Environment) {name : String} (hservice : service.mapped = .ok record)
    (hsubsets : endpoints.subsets = some subsets) (nonempty : subsets ≠ [])
    (hmake : DiscoveryClient.make settings.discovery none = .ok discovery)
    (enabled : settings.discovery.enabled = true)
    (single : settings.discovery.allNamespaces = false) (named : name ≠ "")
    (format : OutputFormat) :
    ∃ inNamespace, ∃ r : Except Failure (List ServiceInstance), RunsTo (Command.findInstances
        (servingSurroundings endpoints service environment) settings name format) ()
        (r.map fun found => { output := instanceReport format name found }) () ∧
      r.map (List.map ServiceInstance.fields) = (subsets.map EndpointSubset.mapped).flatMapM
        (subsetInstances discovery.settings discovery.secure name inNamespace record) := by
  obtain ⟨-, -, hsettings⟩ := DiscoveryClient.make_ok hmake
  have hmade : ∃ client, RunsTo (KubernetesClient.ofConfig settings.kubernetes.fields none
      (environment.exactly? "HOSTNAME") .absent) () (.ok client) () ∧
        client.kubeconfigData = none :=
    ⟨_, (runsTo_report _).trans (runsTo_pure _), rfl⟩
  obtain ⟨client, hclient, hnodata⟩ := hmade
  obtain ⟨connected, hconnect, hconnected⟩ :=
    connect_served endpoints service hnodata
  obtain ⟨inNamespace, r, hrun, hfields⟩ := getInstances_served endpoints discovery hconnected
    hservice hsubsets nonempty (by rwa [hsettings]) (by rwa [hsettings]) named
  refine ⟨inNamespace, r, ?_, hfields⟩
  have hprint : RunsTo (do
      let discovery ← ofResult (DiscoveryClient.make settings.discovery none)
      let found ← discovery.getInstances (connected.reader (servingApi endpoints service))
        (.text name)
      return ({ output := instanceReport format name found } : ProgramEnd)) ()
      (r.map fun found => { output := instanceReport format name found }) () :=
    (runsTo_of_result hmake).trans (hrun.map _)
  have hdisconnect : ∃ left, RunsTo connected.disconnect () (.ok left) () :=
    ⟨_, (runsTo_report _).trans (runsTo_pure _)⟩
  obtain ⟨left, hdisconnect⟩ := hdisconnect
  exact hclient.trans <| hconnect.trans <| hprint.outcome.trans <|
    hdisconnect.trans (runsTo_of_result rfl)

end ClusterDiscovery
