import ClusterDiscovery.Client.Cluster
import ClusterDiscovery.CommandLine.Surroundings
import ClusterDiscovery.Proofs.Listing

/-! # Requests that are sent

What discovery and a watch request of a cluster in memory. A client that looks into its own
namespace sends all requests there: what it finds is of that namespace, and what it looks for next
is looked for in the namespace of what it found.
-/

namespace ClusterDiscovery

open Datum Resource ClusterDiscovery.Action

/-! ## Requests to one namespace -/

inductive ApiCall.AddressedTo (inNamespace : String) : ApiCall → Prop
  | readEndpoints (name : Datum) :
      AddressedTo inNamespace ⟨"read_namespaced_endpoints", [name, .text inNamespace], []⟩
  | listEndpoints :
      AddressedTo inNamespace ⟨"list_namespaced_endpoints", [.text inNamespace], []⟩
  | readService (name : Datum) :
      AddressedTo inNamespace ⟨"read_namespaced_service", [name, .text inNamespace], []⟩
  | listServices (options : List (Datum × Datum)) :
      AddressedTo inNamespace ⟨"list_namespaced_service", [.text inNamespace], options⟩

theorem ApiCall.AddressedTo.last_argument {call : ApiCall} {inNamespace : String}
    (h : call.AddressedTo inNamespace) : call.arguments.getLast? = some (.text inNamespace) := by
  cases h <;> rfl

/-- A request is addressed to one namespace only. -/
theorem ApiCall.AddressedTo.unique {call : ApiCall} {first second : String}
    (hfirst : call.AddressedTo first) (hsecond : call.AddressedTo second) : first = second := by
  have h := hfirst.last_argument
  rw [hsecond.last_argument] at h
  simpa using h.symm

/-- What an action requests of a cluster it requests of one namespace. Its result, if there is
one, has a property. -/
def SendsTo {α : Type} (inNamespace : String) (a : Action Cluster α) (post : α → Prop) : Prop :=
  ∀ s, ∃ sent, (a.runOn s).2.world.calls = s.world.calls ++ sent ∧
    (∀ call ∈ sent, call.AddressedTo inNamespace) ∧ ∀ x, (a.runOn s).1 = .ok x → post x

namespace SendsTo

variable {α β : Type} {inNamespace : String} {post : α → Prop} {next : β → Prop}

/-- An action that sends nothing. -/
theorem of_kept {a : Action Cluster α} (kept : ∀ s, (a.runOn s).2.world.calls = s.world.calls)
    (hpost : ∀ s x, (a.runOn s).1 = .ok x → post x) : SendsTo inNamespace a post :=
  fun s => ⟨[], by rw [kept, List.append_nil], nofun, hpost s⟩

theorem silent {a : Action Cluster α} (kept : ∀ s, (a.runOn s).2.world.calls = s.world.calls) :
    SendsTo inNamespace a fun _ => True :=
  of_kept kept fun _ _ _ => trivial

theorem of_runsTo {a : Action Cluster α} (h : ∀ w, ∃ r, a.RunsTo w r w) :
    SendsTo inNamespace a fun _ => True := by
  refine silent fun s => ?_
  obtain ⟨r, hrun⟩ := h s.world
  obtain ⟨added, hrun⟩ := hrun s.log s.waits
  have hrun : a.runOn s = _ := hrun
  rw [hrun]

theorem bind {a : Action Cluster α} {f : α → Action Cluster β} (ha : SendsTo inNamespace a post)
    (hf : ∀ x, post x → SendsTo inNamespace (f x) next) : SendsTo inNamespace (a >>= f) next := by
  intro s
  obtain ⟨first, hcalls, haddressed, hpost⟩ := ha s
  rw [bind_runOn]
  rcases hrun : a.runOn s with ⟨e | x, t⟩
  · rw [hrun] at hcalls
    exact ⟨first, hcalls, haddressed, nofun⟩
  · rw [hrun] at hcalls hpost
    obtain ⟨second, hmore, hrest, hnext⟩ := hf x (hpost x rfl) t
    refine ⟨first ++ second, ?_, fun call hcall => ?_, hnext⟩
    · rw [← List.append_assoc, ← hcalls]
      exact hmore
    · exact (List.mem_append.mp hcall).elim (haddressed call) (hrest call)

theorem mono {a : Action Cluster α} {weaker : α → Prop} (h : SendsTo inNamespace a post)
    (hpost : ∀ x, post x → weaker x) : SendsTo inNamespace a weaker := by
  intro s
  obtain ⟨sent, hcalls, haddressed, hx⟩ := h s
  exact ⟨sent, hcalls, haddressed, fun x h => hpost x (hx x h)⟩

theorem andThen {a : Action Cluster α} {f : α → Action Cluster β}
    (ha : SendsTo inNamespace a post) (hf : ∀ x, SendsTo inNamespace (f x) next) :
    SendsTo inNamespace (a >>= f) next :=
  ha.bind fun x _ => hf x

theorem pure {x : α} (h : post x) : SendsTo inNamespace (Pure.pure x) post :=
  of_kept (fun _ => rfl) fun _ _ hx => by
    cases hx
    exact h

theorem done {x : α} : SendsTo inNamespace (Pure.pure x) fun _ => True := pure trivial

theorem throw (e : Failure) : SendsTo inNamespace (MonadExcept.throw e) post :=
  of_kept (fun _ => rfl) fun _ _ => nofun

theorem ofResult (r : Except Failure α) :
    SendsTo inNamespace (Action.ofResult r) fun x => r = .ok x := by
  cases r with
  | ok x => exact pure rfl
  | error e => exact throw e

theorem ofReading (r : Except Fault α) :
    SendsTo inNamespace (Action.ofReading r) fun x => r = .ok x := by
  cases r with
  | ok x => exact pure rfl
  | error e => exact throw _

theorem getWorld : SendsTo inNamespace Action.getWorld fun _ => True :=
  silent fun _ => rfl

theorem report (entry : LogEntry) : SendsTo inNamespace (Action.report entry) fun _ => True :=
  silent fun _ => rfl

theorem reports (entries : List LogEntry) :
    SendsTo inNamespace (entries.forM Action.report) fun _ => True :=
  of_runsTo fun _ => ⟨_, runsTo_reports entries⟩

theorem outcome {a : Action Cluster α} (h : SendsTo inNamespace a post) :
    SendsTo inNamespace a.outcomeOf fun r => ∀ x, r = .ok x → post x := by
  intro s
  rw [outcomeOf_runOn]
  obtain ⟨sent, hcalls, haddressed, hpost⟩ := h s
  exact ⟨sent, hcalls, haddressed, fun r hr => by
    cases hr
    exact hpost⟩

theorem retrying {a : Action Cluster α} (h : SendsTo inNamespace a post) (policy : RetryPolicy) :
    SendsTo inNamespace (retrying policy a) post := by
  unfold ClusterDiscovery.retrying
  -- The number of the attempt only decides how long a pause is.
  generalize 1 = number
  induction policy.repetitions generalizing number with
  | zero => exact h
  | succ repetitions ih =>
      refine h.outcome.bind fun r hr => ?_
      cases r with
      | ok x => exact pure (hr x rfl)
      | error f =>
          simp only
          split
          · exact (silent fun _ => rfl).andThen fun _ => ih _
          · exact throw f

theorem mapM {f : β → Action Cluster α} (h : ∀ x, SendsTo inNamespace (f x) fun _ => True)
    (xs : List β) : SendsTo inNamespace (xs.mapM f) fun _ => True := by
  induction xs with
  | nil => exact done
  | cons x rest ih =>
      rw [List.mapM_cons]
      exact (h x).andThen fun _ => ih.andThen fun _ => done

end SendsTo

/-! ## The interface of the cluster -/

namespace Cluster

variable {inNamespace : String}

theorem request_sends {method : String} {arguments : List Datum} {options : List (Datum × Datum)}
    (h : ApiCall.AddressedTo inNamespace ⟨method, arguments, options⟩) :
    SendsTo inNamespace (request method arguments options) fun _ => True := by
  intro s
  refine ⟨[⟨method, arguments, options⟩], ?_, fun call hcall => ?_, fun _ _ => trivial⟩
  · unfold request
    rw [bind_runOn]
    change (Action.runOn (Action.setWorld _ >>= _) s).2.world.calls = _
    rw [bind_runOn]
    cases (takeFailure method s.world.failures).1 <;> rfl
  · rwa [List.mem_singleton.mp hcall]

theorem load_sends (method : String) (arguments : List Datum) (options : List (Datum × Datum)) :
    SendsTo inNamespace (load method arguments options) fun _ => True := by
  refine (SendsTo.silent fun _ => rfl).andThen fun _ => SendsTo.getWorld.bind fun cluster _ => ?_
  cases cluster.loadFailure with
  | none => exact .done
  | some f => exact .throw f

theorem found_sends {α : Type} (resource : Option α) :
    SendsTo inNamespace (found resource) fun x => resource = some x := by
  cases resource with
  | none => exact .throw _
  | some x => exact .pure rfl

/-- Endpoints carry the namespace that they are read from. -/
theorem readEndpoints_sends (name : Datum) :
    SendsTo inNamespace (api.readEndpoints name (.text inNamespace)) fun e =>
      e.metadata.bind (·.inNamespace) = some inNamespace := by
  refine (request_sends (.readEndpoints name)).andThen fun _ => SendsTo.getWorld.bind
    fun cluster _ => ?_
  refine (found_sends _).mono fun e he => ?_
  have hnamed := List.find?_some he
  unfold isNamed at hnamed
  simp only [Bool.and_eq_true, same_text_right] at hnamed
  cases hn : e.metadata.bind (·.inNamespace) <;> simp_all [textOrNull]

theorem nextListing_sends (d : Datum) :
    SendsTo inNamespace (nextListing d) fun _ => True := by
  refine .silent fun s => ?_
  unfold nextListing
  rw [bind_runOn, getWorld_runOn]
  simp only
  split
  · rfl
  · rfl
  · split <;> rfl

theorem listEndpoints_sends :
    SendsTo inNamespace (api.listEndpoints (.text inNamespace)) fun _ => True :=
  (request_sends .listEndpoints).andThen fun _ => nextListing_sends _

theorem readService_sends (name : Datum) :
    SendsTo inNamespace (api.readService name (.text inNamespace)) fun _ => True :=
  (request_sends (.readService name)).andThen fun _ => SendsTo.getWorld.andThen fun _ =>
    (found_sends _).mono fun _ _ => trivial

theorem listServices_sends (selector : Option String) :
    SendsTo inNamespace (api.listServices (.text inNamespace) selector) fun _ => True :=
  (request_sends (.listServices _)).andThen fun _ => SendsTo.getWorld.andThen fun _ => .done

end Cluster

/-! ## The client of the cluster -/

namespace KubernetesClient

variable {α : Type} {inNamespace : String} {post : α → Prop} (client : KubernetesClient)

theorem ask_sends {request : Action Cluster α} (h : SendsTo inNamespace request post)
    (resource place : String) :
    SendsTo inNamespace (client.ask resource place request) post := by
  unfold ask
  cases client.hasApi with
  | false => exact .throw _
  | true =>
      refine h.outcome.bind fun r hr => ?_
      match r, hr with
      | .ok x, hr => exact .pure (hr x rfl)
      | .error f, _ => cases f <;> exact .throw _

theorem askOne_sends {request : Action Cluster Datum} {post : Datum → Prop}
    (h : SendsTo inNamespace request post) (hnull : post .null)
    (resource place absence : String) :
    SendsTo inNamespace (client.askOne resource place absence request) post := by
  unfold askOne
  cases client.hasApi with
  | false => exact .throw _
  | true =>
      refine h.outcome.bind fun r hr => ?_
      match r, hr with
      | .ok d, hr => exact .pure (hr d rfl)
      | .error f, _ =>
          cases f with
          | refused status reason =>
              simp only
              split
              · exact (SendsTo.report _).andThen fun _ => .pure hnull
              · exact .throw _
          | _ => exact .throw _

theorem namespaceOr_own : client.namespaceOr (.text client.ownNamespace) =
    .text client.ownNamespace :=
  ite_self _

/-- What a client finds in its own namespace is of that namespace. -/
theorem getEndpoints_sends (name : Datum) :
    SendsTo client.ownNamespace
      (client.getEndpoints Cluster.api name (.text client.ownNamespace)) fun d =>
        (d = .null ∨ MappedEndpoints d) ∧
          DiscoveryClient.namespaceOf client.ownNamespace d = client.ownNamespace := by
  unfold getEndpoints
  rw [namespaceOr_own]
  refine .retrying (askOne_sends client ?_ ⟨.inl rfl, rfl⟩ _ _ _) _
  refine (Cluster.readEndpoints_sends name).bind fun e he => .pure ⟨.inr e.mapped_endpoints, ?_⟩
  simp [DiscoveryClient.namespaceOf, Endpoints.mapped, fieldOf_record, he, textOrNull]

theorem getService_sends (name : Datum) :
    SendsTo client.ownNamespace
      (client.getService Cluster.api name (.text client.ownNamespace)) fun d =>
        d = .null ∨ MappedService d := by
  unfold getService
  rw [namespaceOr_own]
  refine .retrying (askOne_sends client ?_ (.inl rfl) _ _ _) _
  refine (Cluster.readService_sends name).bind fun service _ => ?_
  exact (SendsTo.ofReading _).mono fun d hd => .inr (Service.mapped_service hd)

theorem listEndpoints_sends :
    SendsTo client.ownNamespace (client.listEndpoints Cluster.api .null) fun _ => True := by
  refine .retrying ((ask_sends client Cluster.listEndpoints_sends _ _).andThen fun _ => ?_) _
  exact (SendsTo.report _).andThen fun _ => .done

theorem listServices_sends (labels : Datum) :
    SendsTo client.ownNamespace (client.listServices Cluster.api .null false labels)
      fun _ => True := by
  refine .retrying ((SendsTo.ofReading _).andThen fun _ =>
    (ask_sends client (Cluster.listServices_sends _) _ _).andThen fun _ => ?_) _
  refine (SendsTo.mapM (fun service => (SendsTo.ofReading _).mono fun _ _ => trivial) _).andThen
    fun _ => ?_
  exact (SendsTo.report _).andThen fun _ => .done

def namespaceRead : String :=
  if client.inCluster == some true then client.podNamespace else client.ownNamespace

theorem loadConfiguration_sends :
    SendsTo inNamespace (client.loadConfiguration Cluster.api) fun connected =>
      connected.ownNamespace = client.namespaceRead := by
  unfold loadConfiguration namespaceRead
  simp only
  split
  · exact (Cluster.load_sends _ _ _).andThen fun _ => (SendsTo.report _).andThen fun _ => .pure rfl
  · split
    · exact (SendsTo.ofResult _).andThen fun _ => (Cluster.load_sends _ _ _).andThen fun _ =>
        (SendsTo.report _).andThen fun _ => .pure rfl
    · split <;> exact (Cluster.load_sends _ _ _).andThen fun _ => (SendsTo.report _).andThen
        fun _ => .pure rfl

theorem connect_sends :
    SendsTo inNamespace (client.connect Cluster.api) fun connected =>
      connected.ownNamespace = client.namespaceRead := by
  refine client.loadConfiguration_sends.outcome.bind fun r hr => ?_
  cases r with
  | error f => exact .throw _
  | ok connected => exact (SendsTo.report _).andThen fun _ => .pure (hr connected rfl)

/-- What a connected client sends to its namespace is sent there for the time of the connection. -/
theorem during_sends {action : KubernetesClient → Action Cluster α}
    (h : ∀ connected : KubernetesClient,
      SendsTo connected.ownNamespace (action connected) fun _ => True) :
    SendsTo client.namespaceRead (client.during Cluster.api action) fun _ => True := by
  refine client.connect_sends.bind fun connected hown => ?_
  have haction := h connected
  have hdisconnect : SendsTo client.namespaceRead connected.disconnect fun _ => True :=
    (SendsTo.report _).andThen fun _ => .done
  rw [hown] at haction
  exact haction.outcome.andThen fun r => hdisconnect.andThen fun _ =>
    (SendsTo.ofResult r).mono fun _ _ => trivial

end KubernetesClient

/-! ## Discovery -/

namespace DiscoveryClient

variable (discovery : DiscoveryClient) (client : KubernetesClient)

theorem expand_sends (settings : DiscoverySettings) (secure : SecurePorts) (name : String)
    {subsets : List Datum} (h : ∀ s ∈ subsets, MappedSubset s) :
    SendsTo client.ownNamespace (expand (client.reader Cluster.api) settings secure
      (.text client.ownNamespace) (.text name) (.list subsets)) fun _ => True := by
  by_cases hsome : (Datum.list subsets).truthy = true
  · rw [expand_eq _ _ _ _ _ hsome]
    refine (client.getService_sends (.text name)).bind fun found hfound => ?_
    -- Once the service is read, its subsets are expanded without further requests.
    have hexpand {service : Datum} (hservice : MappedService service) :
        SendsTo client.ownNamespace (expandFor settings secure (.text client.ownNamespace)
          (.text name) (.list subsets) service) fun _ => True :=
      .of_runsTo fun w => by
        obtain ⟨r, hrun, -⟩ := expandFor_runsTo (w := w) settings secure name client.ownNamespace
          hservice h
        exact ⟨r, hrun⟩
    obtain rfl | hservice := hfound
    · exact (SendsTo.report _).andThen fun _ => hexpand (mapped_anonymousService _)
    · obtain ⟨entries, rfl⟩ := hservice.mapping
      exact hexpand hservice
  · unfold expand
    rw [Bool.not_eq_true] at hsome
    simp only [hsome, Bool.not_false, if_true]
    exact .done

theorem groupOf_inNamespace {ownNamespace : String} {endpoints : Datum}
    (h : namespaceOf ownNamespace endpoints = ownNamespace) :
    (groupOf ownNamespace endpoints).inNamespace = ownNamespace := by
  unfold groupOf
  split
  · rfl
  · exact h

theorem expandGroups_sends {d : Datum} (hd : d = .null ∨ MappedEndpoints d)
    (hown : namespaceOf client.ownNamespace d = client.ownNamespace) (name : String) :
    SendsTo client.ownNamespace (expandGroups (client.reader Cluster.api) discovery (.text name)
      [groupOf client.ownNamespace d]) fun _ => True := by
  unfold expandGroups
  rw [groupOf_inNamespace hown]
  have hexpand := expand_sends client discovery.settings discovery.secure name
    (groupOf_subsets hd client.ownNamespace)
  exact hexpand.andThen fun _ => SendsTo.done.andThen fun _ => .done

/-- A client that looks into its own namespace finds at most one collection of endpoints there,
and it looks for the service in the same namespace. -/
theorem getInstances_sends (single : discovery.settings.allNamespaces = false) (name : String) :
    SendsTo client.ownNamespace
      (discovery.getInstances (client.reader Cluster.api) (.text name)) fun _ => True := by
  cases named : (Datum.text name).truthy with
  | false =>
      rw [getInstances_unnamed _ _ named]
      exact .throw _
  | true =>
      cases enabled : discovery.settings.enabled with
      | false =>
          rw [getInstances_disabled _ _ named enabled]
          exact .done
      | true =>
          rw [getInstances_eq _ _ named enabled, single]
          have hread : SendsTo client.ownNamespace (readEndpoints (client.reader Cluster.api) false
              (.text name) client.ownNamespace) fun found => ∃ d, found = [d] ∧
                (d = .null ∨ MappedEndpoints d) ∧
                namespaceOf client.ownNamespace d = client.ownNamespace :=
            (client.getEndpoints_sends (.text name)).bind fun d hd => .pure ⟨d, rfl, hd⟩
          refine SendsTo.getWorld.andThen fun _ => hread.bind fun found hfound =>
            (SendsTo.ofResult _).bind fun groups hgroups => ?_
          obtain ⟨d, rfl, hd, hown⟩ := hfound
          have hgroup : [d].mapM (fun e => subsetGroup e client.ownNamespace) =
              .ok [groupOf client.ownNamespace d] := by
            simp only [List.mapM_cons, List.mapM_nil, subsetGroup_eq hd]
            rfl
          -- The only group is that of the own namespace, where the service is looked for next.
          cases hgroup.symm.trans hgroups
          exact (expandGroups_sends discovery client hd hown name).andThen fun _ =>
            (SendsTo.report _).andThen fun _ => .done

theorem filteredNames_sends (filter : ServiceFilter) (services : List Datum) (position : Nat) :
    SendsTo client.ownNamespace
      (filteredNames (client.reader Cluster.api) filter position services) fun _ => True := by
  induction services generalizing position with
  | nil => exact .done
  | cons service rest ih =>
      refine (SendsTo.reports _).andThen fun _ =>
        (SendsTo.silent fun _ => rfl).andThen
          fun _ => (SendsTo.ofReading _).bind fun accepted _ => ?_
      cases accepted with
      | false => exact ih _
      | true => exact (SendsTo.ofReading _).andThen fun _ => (ih _).andThen fun _ => .done

theorem testedNames_sends (holds : Datum → Except Failure Bool) (services : List Datum) :
    SendsTo client.ownNamespace (testedNames holds services) fun _ => True := by
  induction services with
  | nil => exact .done
  | cons service rest ih =>
      refine (SendsTo.ofResult _).bind fun accepted _ => ?_
      cases accepted with
      | false => exact ih
      | true => exact (SendsTo.ofReading _).andThen fun _ => ih.andThen fun _ => .done

theorem getServices_sends (single : discovery.settings.allNamespaces = false)
    (predicate : ServicePredicate) :
    SendsTo client.ownNamespace
      (discovery.getServices (client.reader Cluster.api) predicate) fun _ => True := by
  cases enabled : discovery.settings.enabled with
  | false =>
      rw [getServices_disabled _ _ _ enabled]
      exact .done
  | true =>
      rw [getServices_eq _ _ _ enabled, single]
      refine (SendsTo.ofResult _).bind fun names hnames =>
        (client.listServices_sends _).bind fun services _ => ?_
      have hfound : SendsTo client.ownNamespace (names services) fun _ => True := by
        obtain ⟨holds, rfl⟩ | ⟨filter, rfl⟩ := namesBy_cases hnames
        · exact testedNames_sends client holds services
        · exact filteredNames_sends client filter services 0
      exact hfound.andThen fun _ => (SendsTo.report _).andThen fun _ => .done

end DiscoveryClient

/-! ## Watching -/

theorem CatalogWatch.pollCluster_sends (client : KubernetesClient) (listener : Listener)
    (isOver : Cluster → Bool) (polls : Nat) (watch : CatalogWatch) :
    SendsTo client.ownNamespace (pollCluster Cluster.api client listener isOver polls watch)
      fun _ => True := by
  induction polls generalizing watch with
  | zero => exact .done
  | succ polls ih =>
      refine client.listEndpoints_sends.outcome.bind fun observed _ => ?_
      dsimp only
      split
      · exact .done
      · refine (SendsTo.reports _).andThen fun _ => SendsTo.getWorld.bind fun w _ => ?_
        split
        · exact .done
        · exact (ih _).andThen fun _ => .done

theorem CatalogWatch.runOnCluster_sends (client : KubernetesClient) (listener : Listener)
    (isOver : Cluster → Bool) (polls : Nat) :
    SendsTo client.ownNamespace (runOnCluster Cluster.api client listener isOver polls)
      fun _ => True := by
  refine (SendsTo.report _).andThen fun _ =>
    (pollCluster_sends client listener isOver polls _).bind fun ending _ => ?_
  split
  · exact .done
  · exact (SendsTo.report _).andThen fun _ => .done

end ClusterDiscovery
