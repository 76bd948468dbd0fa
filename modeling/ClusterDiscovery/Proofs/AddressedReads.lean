import ClusterDiscovery.Client.Snapshot
import ClusterDiscovery.CommandLine.Program
import ClusterDiscovery.Proofs.SentRequests

/-! # The namespace that a command reads

All requests of a command are for endpoints and services of one namespace. It is the namespace
that the command line asks for, unless the settings say to connect from within a pod. Then the
namespace of the pod takes its place, where the service account has one.
-/

namespace ClusterDiscovery

/-! ## Commands -/

namespace KubernetesSettings

/-- The namespace of the pod that the settings say to connect from, if its account has one. -/
def mounted? (settings : KubernetesSettings) (account : ServiceAccount) : Option String :=
  if settings.inCluster then KubernetesClient.nonEmpty (account.inNamespace.map Text.trim) else none

end KubernetesSettings

variable (cluster : Cluster) (environment : Environment) (account : ServiceAccount)

/-- The namespace that a client from settings reads, once it is connected. -/
theorem namespaceRead_make {settings : KubernetesSettings}
    (nonempty : settings.defaultNamespace ≠ "") (hostname : Option String) :
    (KubernetesClient.make settings.fields settings.kubeconfigPath settings.context none
      (some settings.inCluster) hostname account).namespaceRead =
        (settings.mounted? account).getD settings.defaultNamespace := by
  have hempty : settings.defaultNamespace.isEmpty = false := by simpa using nonempty
  have hown : KubernetesClient.configuredNamespace settings.fields = settings.defaultNamespace := by
    change (if settings.defaultNamespace.isEmpty then _ else _) = _
    rw [hempty]
    rfl
  unfold KubernetesClient.namespaceRead KubernetesSettings.mounted? KubernetesClient.podNamespace
    KubernetesClient.make
  simp only [hown]
  cases settings.inCluster <;> rfl

theorem ofConfig_sends {inNamespace : String} {settings : KubernetesSettings}
    (nonempty : settings.defaultNamespace ≠ "") (hostname : Option String) :
    SendsTo inNamespace (KubernetesClient.ofConfig settings.fields none hostname account)
      fun client =>
        client.namespaceRead = (settings.mounted? account).getD settings.defaultNamespace := by
  refine (SendsTo.report _).andThen fun _ => .pure ?_
  rw [← namespaceRead_make account nonempty hostname]
  obtain ⟨kubeconfigPath, defaultNamespace, context, inCluster⟩ := settings
  cases kubeconfigPath <;> cases context <;> rfl

theorem withClient_sends {α : Type} {settings : KubernetesSettings}
    (nonempty : settings.defaultNamespace ≠ "") {action : KubernetesClient → Action Cluster α}
    (h : ∀ client : KubernetesClient, SendsTo client.ownNamespace (action client) fun _ => True) :
    SendsTo ((settings.mounted? account).getD settings.defaultNamespace)
      ((cluster.surroundings environment account).withClient settings action) fun _ => True := by
  refine (ofConfig_sends account nonempty _).bind fun client hread => ?_
  rw [← hread]
  exact client.during_sends h

theorem endingWith_sends {inNamespace : String} {action : Action Cluster ProgramEnd}
    (h : SendsTo inNamespace action fun _ => True) (debug : Bool) :
    SendsTo inNamespace (endingWith action debug) fun _ => True := by
  refine h.outcome.andThen fun ending => ?_
  cases ending <;> exact .done

theorem Command.run_sends (settings : Settings) (single : settings.discovery.allNamespaces = false)
    (nonempty : settings.kubernetes.defaultNamespace ≠ "") (command : Command) :
    SendsTo ((settings.kubernetes.mounted? account).getD settings.kubernetes.defaultNamespace)
      (command.run (cluster.surroundings environment account) settings) fun _ => True := by
  cases command with
  | instances service primaryPort format =>
      refine withClient_sends _ _ _ nonempty fun client => ?_
      refine (SendsTo.ofResult _).bind fun discovery hdiscovery => ?_
      have hsingle : discovery.settings.allNamespaces = false := by
        rw [(DiscoveryClient.make_ok hdiscovery).2.2]
        exact single
      exact (discovery.getInstances_sends client hsingle service).andThen fun _ => .done
  | services filter =>
      refine withClient_sends _ _ _ nonempty fun client => ?_
      refine (SendsTo.ofResult _).bind fun discovery hdiscovery => ?_
      have hsingle : discovery.settings.allNamespaces = false := by
        rw [(DiscoveryClient.make_ok hdiscovery).2.2]
        exact single
      exact (discovery.getServices_sends client hsingle _).andThen fun _ => .done
  | watch delay =>
      simp only [run]
      split
      · exact .done
      · refine withClient_sends _ _ _ nonempty fun client => ?_
        exact (CatalogWatch.runOnCluster_sends client _ _ _).andThen fun _ => .done

/-- The namespace of the pod that the environment says to connect from, if its account has one. -/
def mountedNamespace? (environment : Environment) (account : ServiceAccount) : Option String :=
  match Settings.load environment [] with
  | .ok settings => settings.kubernetes.mounted? account
  | .error _ => none

theorem runProgram_sends {words rest : List String} {options : GlobalOptions} {name : CommandName}
    (hwords : GlobalOptions.read words = .ok (options, name, rest)) {asked : String}
    (hasked : options.inNamespace = some asked) (nonempty : asked ≠ "")
    (single : options.allNamespaces = false)
    (singleSettings : ∀ settings, Settings.load environment [] = .ok settings →
      settings.discovery.allNamespaces = false) :
    SendsTo ((mountedNamespace? environment account).getD asked)
      (runProgram (cluster.surroundings environment account) words) fun _ => True := by
  have henvironment : (cluster.surroundings environment account).environment = environment := rfl
  unfold runProgram mountedNamespace?
  simp only [hwords, henvironment]
  cases hload : Settings.load environment [] with
  | error failure => exact .done
  | ok settings =>
      -- The command line goes before the settings, and the pod goes before both.
      have hempty : asked.isEmpty = false := by simpa using nonempty
      have hnamespace : (settings.withOptions options).kubernetes.defaultNamespace = asked := by
        simp [Settings.withOptions, hasked, Option.filter, hempty]
      have hsingle : (settings.withOptions options).discovery.allNamespaces = false := by
        simp [Settings.withOptions, single, singleSettings settings hload]
      simp only
      cases Command.read name rest with
      | error stop => exact .done
      | ok command =>
          have hrun := Command.run_sends cluster environment account (settings.withOptions options)
            hsingle (by rwa [hnamespace]) command
          rw [hnamespace] at hrun
          exact (endingWith_sends hrun _).andThen fun _ => .done

/-! ## The namespace asked for -/

theorem CommandForm.takeOption_namespace (asked : String) (words : List String) :
    program.takeOption "-n" (asked :: words) =
      .ok ([(⟨"--namespace", some 'n', .text⟩, asked)], words) := by
  have hcut : cutWord "-n" = ("-n", none) := by decide +kernel
  have hnamed : program.optionNamed? "-n" = none := by decide
  have hlong : "-n".startsWith "--" = false := by decide +kernel
  have hletters : "-n".toList.drop 1 = ['n'] := by decide +kernel
  unfold takeOption
  simp only [hcut, hnamed, hlong, hletters]
  rfl

theorem CommandForm.split_namespace (asked : String) (name : CommandName) (rest : List String) :
    program.split ("-n" :: asked :: name.word :: rest) =
      .ok ⟨[(⟨"--namespace", some 'n', .text⟩, asked)], name.word :: rest⟩ := by
  have hoption : isOptionWord "-n" = true := by decide +kernel
  have hword : isOptionWord name.word = false := by cases name <;> decide +kernel
  have hdashes : ("-n" == "--") = false := by decide
  have hcommand : (name.word == "--") = false := by cases name <;> decide
  have hrest : program.splitUpTo (rest.length + 2) (name.word :: rest) =
      .ok ⟨[], name.word :: rest⟩ := by
    unfold splitUpTo
    simp only [hcommand, hword, Bool.false_eq_true, if_false]
    rfl
  unfold split
  simp only [List.length_cons]
  unfold splitUpTo
  simp only [hdashes, hoption, Bool.false_eq_true, if_false, if_true, takeOption_namespace]
  simp only [bind, Except.bind, hrest]
  rfl

/-- The option for a namespace, in front of a command. -/
theorem read_namespace (asked : String) (name : CommandName) (rest : List String) :
    GlobalOptions.read ("-n" :: asked :: name.word :: rest) =
      .ok (⟨some asked, false, false⟩, name, rest) := by
  have hname : CommandName.ofWord? name.word = some name := by cases name <;> decide
  have hread : CommandForm.program.read ("-n" :: asked :: name.word :: rest) =
      .ok ⟨[(⟨"--namespace", some 'n', .text⟩, asked)], name.word :: rest⟩ := by
    unfold CommandForm.read
    rw [CommandForm.split_namespace]
    rfl
  unfold GlobalOptions.read
  simp only [hread, List.isEmpty_cons, bind, Except.bind, pure, Except.pure, hname]
  rfl

/-- Without looking into all namespaces, a command reads one namespace. It is the namespace that
the command line asks for, unless the environment says to connect from within a pod whose account
has another one. That namespace is then read instead. -/
theorem reads_namespace_asked_unless_mounted {words rest : List String} {options : GlobalOptions}
    {name : CommandName} (hwords : GlobalOptions.read words = .ok (options, name, rest))
    {asked : String} (hasked : options.inNamespace = some asked) (nonempty : asked ≠ "")
    (single : options.allNamespaces = false)
    (singleSettings : ∀ settings, Settings.load environment [] = .ok settings →
      settings.discovery.allNamespaces = false) :
    let after := ((runProgram (cluster.surroundings environment account) words).runOn
      (.start cluster)).2.world
    let read := (mountedNamespace? environment account).getD asked
    ∃ sent, after.calls = cluster.calls ++ sent ∧ (∀ call ∈ sent, call.AddressedTo read) ∧
      ((∀ call ∈ sent, call.AddressedTo asked) ↔ sent = [] ∨ read = asked) := by
  intro after read
  obtain ⟨sent, hcalls, haddressed, -⟩ := runProgram_sends cluster environment account hwords
    hasked nonempty single singleSettings (.start cluster)
  refine ⟨sent, hcalls, haddressed, fun hkept => ?_, ?_⟩
  · cases sent with
    | nil => exact .inl rfl
    | cons call others =>
        exact .inr ((haddressed call List.mem_cons_self).unique (hkept call List.mem_cons_self))
  · rintro (rfl | hread)
    · exact fun call hcall => absurd hcall List.not_mem_nil
    · rwa [← hread]

/-- A process whose variables file says to connect from within its pod. -/
def podEnvironment : Environment := ⟨[], some "KUBERNETES=\x7b\"in_cluster\": true\x7d"⟩

def podAccount : ServiceAccount := ⟨some "token", some "certificate", some "kube-ns\n"⟩

/-- What asking for the services of the namespace `shop` sends from this pod. -/
def podCalls : List ApiCall :=
  ((runProgram ((Cluster.ofSnapshot []).surroundings podEnvironment podAccount)
    ["-n", "shop", "services"]).runOn (.start (Cluster.ofSnapshot []))).2.world.calls

theorem podCalls_methods : podCalls.map (·.method) = ["list_namespaced_service"] := by
  decide +kernel

theorem podEnvironment_loads :
    ∃ settings, Settings.load podEnvironment [] = .ok settings ∧
      settings.discovery.allNamespaces = false ∧ settings.kubernetes.inCluster = true := by
  have h : (Settings.load podEnvironment []).toOption.map (fun settings =>
      (settings.discovery.allNamespaces, settings.kubernetes.inCluster)) = some (false, true) := by
    decide +kernel
  cases hload : Settings.load podEnvironment [] with
  | error failure =>
      rw [hload] at h
      cases h
  | ok settings =>
      rw [hload] at h
      simp only [Except.toOption, Option.map_some, Option.some.injEq, Prod.mk.injEq] at h
      exact ⟨settings, rfl, h⟩

theorem services_of_mounted_namespace :
    (∀ call ∈ podCalls, call.AddressedTo "kube-ns") ∧
      ¬ ∀ call ∈ podCalls, call.AddressedTo "shop" := by
  obtain ⟨settings, hload, hsingle, hinCluster⟩ := podEnvironment_loads
  have hmounted : mountedNamespace? podEnvironment podAccount = some "kube-ns" := by
    unfold mountedNamespace? KubernetesSettings.mounted?
    rw [hload]
    simp only [hinCluster]
    decide
  obtain ⟨sent, hcalls, haddressed, hkept⟩ := reads_namespace_asked_unless_mounted
    (Cluster.ofSnapshot []) podEnvironment podAccount (read_namespace "shop" .services []) rfl
    (by decide) rfl fun loaded h => by
      cases hload.symm.trans h
      exact hsingle
  have hcalls : podCalls = sent := hcalls
  rw [hmounted, ← hcalls] at haddressed hkept
  refine ⟨haddressed, fun h => ?_⟩
  obtain hnone | hsame := hkept.mp h
  · have hmethods := podCalls_methods
    rw [hnone] at hmethods
    cases hmethods
  · exact absurd hsame (by decide)

end ClusterDiscovery
