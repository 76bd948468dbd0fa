import ClusterDiscovery.Client.Snapshot
import ClusterDiscovery.Proofs.ClusterReads

/-! # The text of a label selector

A selector is the requirements of all labels with commas between them. Where keys have neither
commas nor equals signs, and values no commas, the labels can be read back from it, in their
order. So a listing of services demands what is configured and nothing else.
-/

namespace ClusterDiscovery

open Datum ClusterDiscovery.Action

/-! ## Splitting at one character -/

namespace Text

variable {c : Char} {s : List Char}

theorem find?_of_not_mem (h : c ∉ s) : find? [c] s = none := by
  induction s with
  | nil => rfl
  | cons d rest ih =>
      have hother : c ≠ d := fun heq => h (by simp [heq])
      have hrest : find? [c] rest = none := ih fun hmem => h (List.mem_cons_of_mem _ hmem)
      simp [find?, List.isPrefixOf, hother, hrest]

theorem find?_append (h : c ∉ s) (rest : List Char) :
    find? [c] (s ++ c :: rest) = some s.length := by
  induction s with
  | nil => simp [find?, List.isPrefixOf]
  | cons d s ih =>
      have hother : c ≠ d := fun heq => h (by simp [heq])
      have hrest := ih fun hmem => h (List.mem_cons_of_mem _ hmem)
      simp [find?, List.isPrefixOf, hother, hrest]

theorem partition_append (h : c ∉ s) (rest : List Char) :
    partition [c] (s ++ c :: rest) = (s, [c], rest) := by
  simp [partition, find?_append h]

theorem splitOn_go_last (h : c ∉ s) (fuel : Nat) : splitOn.go [c] fuel none s = [s] := by
  cases fuel with
  | zero => rfl
  | succ fuel => simp [splitOn.go, find?_of_not_mem h]

theorem splitOn_go_append (h : c ∉ s) (fuel : Nat) (rest : List Char) :
    splitOn.go [c] (fuel + 1) none (s ++ c :: rest) = s :: splitOn.go [c] fuel none rest := by
  simp [splitOn.go, find?_append h, reduced]

theorem splitOn_go_intercalate {piece : List Char} {rest : List (List Char)}
    (h : ∀ p ∈ piece :: rest, c ∉ p) {fuel : Nat} (hfuel : rest.length ≤ fuel) :
    splitOn.go [c] fuel none ([c].intercalate (piece :: rest)) = piece :: rest := by
  induction rest generalizing piece fuel with
  | nil =>
      rw [List.intercalate_singleton]
      exact splitOn_go_last (h piece List.mem_cons_self) fuel
  | cons next rest ih =>
      obtain ⟨n, rfl⟩ : ∃ n, fuel = n + 1 := ⟨fuel - 1, by simp at hfuel; omega⟩
      have hrest : rest.length ≤ n := by simpa using hfuel
      rw [List.intercalate_cons_cons, List.append_assoc, List.singleton_append,
        splitOn_go_append (h piece List.mem_cons_self),
        ih (fun p hp => h p (List.mem_cons_of_mem _ hp)) hrest]

/-- The pieces that are joined are those that a split finds. -/
theorem splitOn_intercalate {pieces : List (List Char)} (nonempty : pieces ≠ [])
    (h : ∀ p ∈ pieces, c ∉ p) : splitOn [c] none ([c].intercalate pieces) = pieces := by
  have hlength (pieces : List (List Char)) :
      pieces.length ≤ ([c].intercalate pieces).length + 1 := by
    induction pieces with
    | nil => simp
    | cons piece rest ih =>
        cases rest with
        | nil => simp
        | cons next rest =>
            rw [List.intercalate_cons_cons]
            simp only [List.length_append, List.length_cons, List.length_nil] at ih ⊢
            omega
  obtain ⟨piece, rest, rfl⟩ := List.exists_cons_of_ne_nil nonempty
  have hfuel := hlength (piece :: rest)
  rw [List.length_cons] at hfuel
  exact splitOn_go_intercalate h (by omega)

end Text

/-! ## The labels that a selector demands -/

/-- Keys have no comma and no equals sign, values have no comma. -/
def IsSeparable (label : String × String) : Prop :=
  ',' ∉ label.1.toList ∧ '=' ∉ label.1.toList ∧ ',' ∉ label.2.toList

def requirementText (label : String × String) : String := label.1 ++ "=" ++ label.2

def selectorText (labels : List (String × String)) : String :=
  ",".intercalate (labels.map requirementText)

theorem requirementText_toList (label : String × String) :
    (requirementText label).toList = label.1.toList ++ '=' :: label.2.toList := by
  simp [requirementText, String.toList_append]

theorem labelSelector?_eq (labels : Option (List (String × String))) :
    labelSelector? (ClusterRead.labelsDatum labels) =
      .ok (if labels.getD [] = [] then none else some (selectorText (labels.getD []))) := by
  match labels with
  | none => rfl
  | some [] => rfl
  | some (label :: rest) =>
      have htexts : ((label :: rest).map textEntry).mapM labelRequirement =
          .ok ((label :: rest).map requirementText) := by
        rw [List.mapM_map]
        exact mapM_eq_ok fun _ _ => rfl
      unfold labelSelector? ClusterRead.labelsDatum
      simp only [htexts]
      rfl

theorem selectorText_ne_empty {labels : List (String × String)} (nonempty : labels ≠ []) :
    selectorText labels ≠ "" := by
  obtain ⟨label, rest, rfl⟩ := List.exists_cons_of_ne_nil nonempty
  have hequals : '=' ∈ (selectorText (label :: rest)).toList := by
    cases rest with
    | nil => simp [selectorText, requirementText_toList]
    | cons next rest =>
        simp [selectorText, String.toList_intercalate, requirementText_toList]
  intro hempty
  rw [hempty] at hequals
  simp at hequals

/-- The requirements that a selector is made of are those that are read from it. -/
theorem requirements_selectorText {labels : List (String × String)} (nonempty : labels ≠ [])
    (separable : ∀ label ∈ labels, IsSeparable label) :
    Cluster.requirements (selectorText labels) = labels := by
  have hpieces : (selectorText labels).toList =
      [','].intercalate (labels.map fun label => (requirementText label).toList) := by
    simp [selectorText, String.toList_intercalate, Function.comp_def]
  have hfree : ∀ p ∈ labels.map fun label => (requirementText label).toList, ',' ∉ p := by
    intro p hp
    obtain ⟨label, hlabel, rfl⟩ := List.mem_map.mp hp
    obtain ⟨hkey, -, hvalue⟩ := separable label hlabel
    rw [requirementText_toList]
    simp [hkey, hvalue]
  have hpair : ∀ label ∈ labels, (fun part : List Char =>
      (String.ofList (Text.partition ['='] part).1,
        String.ofList (Text.partition ['='] part).2.2)) (requirementText label).toList = label := by
    intro label hlabel
    obtain ⟨-, hkey, -⟩ := separable label hlabel
    simp only [requirementText_toList, Text.partition_append hkey, String.ofList_toList]
  unfold Cluster.requirements
  rw [hpieces, Text.splitOn_intercalate (by simpa using nonempty) hfree, List.map_map]
  exact (List.map_congr_left hpair).trans (List.map_id labels)

/-- A selector that is read back as these labels is met by what carries all of them. -/
theorem meets_iff {labels : List (String × String)} {selector : Option String}
    (absent : selector = none ↔ labels = [])
    (decoded : ∀ text, selector = some text → Cluster.requirements text = labels)
    (carried : Option (List (String × String))) :
    Cluster.meets carried selector = true ↔
      ∀ label ∈ labels, (carried.getD []).lookup label.1 = some label.2 := by
  cases selector with
  | none =>
      rw [absent.mp rfl]
      simp [Cluster.meets]
  | some text =>
      have hlookup (carried : List (String × String)) (key : String) :
          (carried.find? fun e => e.1 == key).map (·.2) = carried.lookup key := by
        induction carried with
        | nil => rfl
        | cons e rest ih =>
            rw [List.find?_cons, List.lookup_cons, BEq.comm]
            cases key == e.1 with
            | true => rfl
            | false => exact ih
      simp only [Cluster.meets, decoded text rfl, List.all_eq_true, hlookup, beq_iff_eq]

/-! ## The requests of a listing -/

/-- An action makes these requests, whether it fails or not. -/
def Requests {α : Type} (calls : List ApiCall) (a : Action Cluster α) : Prop :=
  ∀ s, (a.runOn s).2.world.calls = s.world.calls ++ calls

namespace Requests

variable {α β : Type} {calls : List ApiCall}

theorem of_runsTo {a : Action Cluster α} (h : ∀ w, ∃ r, a.RunsTo w r w) : Requests [] a := by
  intro s
  obtain ⟨r, hrun⟩ := h s.world
  obtain ⟨added, hrun⟩ := hrun s.log s.waits
  have hrun : a.runOn s = _ := hrun
  rw [hrun, List.append_nil]

theorem andThen {a : Action Cluster α} {f : α → Action Cluster β} (ha : Requests calls a)
    (hf : ∀ x, Requests [] (f x)) : Requests calls (a >>= f) := by
  intro s
  have hfirst := ha s
  rw [bind_runOn]
  rcases hrun : a.runOn s with ⟨e | x, t⟩
  · rw [hrun] at hfirst
    exact hfirst
  · rw [hrun] at hfirst
    have hrest := hf x t
    rw [List.append_nil] at hrest
    exact hrest.trans hfirst

theorem outcome {a : Action Cluster α} (h : Requests calls a) : Requests calls a.outcomeOf := by
  intro s
  rw [outcomeOf_runOn]
  exact h s

theorem request (method : String) (arguments : List Datum) (options : List (Datum × Datum)) :
    Requests [⟨method, arguments, options⟩] (Cluster.request method arguments options) := by
  intro s
  unfold Cluster.request
  rw [bind_runOn]
  change (runOn (setWorld _ >>= _) s).2.world.calls = _
  rw [bind_runOn]
  cases (Cluster.takeFailure method s.world.failures).1 <;> rfl

/-- A repeated action makes the requests of one attempt once or more often. -/
theorem retrying {a : Action Cluster α} {call : ApiCall} (h : Requests [call] a)
    (s : Session Cluster) :
    ∃ n, 1 ≤ n ∧ n ≤ 3 ∧
      ((ClusterDiscovery.retrying {} a).runOn s).2.world.calls =
        s.world.calls ++ List.replicate n call := by
  have hfrom (repetitions number : Nat) (s : Session Cluster) :
      ∃ n, 1 ≤ n ∧ n ≤ repetitions + 1 ∧
        ((retryFrom {} a number repetitions).runOn s).2.world.calls =
          s.world.calls ++ List.replicate n call := by
    induction repetitions generalizing number s with
    | zero => exact ⟨1, by omega, by omega, h s⟩
    | succ repetitions ih =>
        have hfirst := h s
        rw [retryFrom_succ_runOn]
        rcases hrun : a.runOn s with ⟨f | x, t⟩
        · rw [hrun] at hfirst
          by_cases hretry : f.isRetryable = true
          · obtain ⟨n, hone, hmost, hcalls⟩ := ih (number + 1)
              { t with waits := t.waits ++ [RetryPolicy.pauseAfter {} number] }
            refine ⟨n + 1, by omega, by omega, ?_⟩
            simp only [hretry, if_true]
            rw [hcalls, hfirst, List.replicate_succ, List.append_assoc]
            rfl
          · refine ⟨1, by omega, by omega, ?_⟩
            simp only [hretry, Bool.false_eq_true, if_false]
            exact hfirst
        · rw [hrun] at hfirst
          exact ⟨1, by omega, by omega, hfirst⟩
  exact hfrom 2 1 s

end Requests

namespace KubernetesClient

variable {client : KubernetesClient}

theorem ask_requests {α : Type} (connected : client.hasApi = true) {calls : List ApiCall}
    {request : Action Cluster α} (h : Requests calls request) (resource place : String) :
    Requests calls (client.ask resource place request) := by
  unfold ask
  simp only [connected, Bool.not_true, Bool.false_eq_true, if_false]
  refine h.outcome.andThen fun r => ?_
  cases r with
  | ok x => exact .of_runsTo fun _ => ⟨_, runsTo_pure x⟩
  | error f => cases f <;> exact .of_runsTo fun _ => ⟨_, runsTo_throw _⟩

def listingCall (client : KubernetesClient) (inNamespace : Datum) (everywhere : Bool)
    (selector : Option String) : ApiCall :=
  if everywhere then
    ⟨"list_service_for_all_namespaces", [], Cluster.option "label_selector" selector⟩
  else ⟨"list_namespaced_service", [client.namespaceOr inNamespace],
    Cluster.option "label_selector" selector⟩

theorem askServices_requests (connected : client.hasApi = true) (inNamespace : Datum)
    (everywhere : Bool) (selector : Option String) :
    Requests [client.listingCall inNamespace everywhere selector]
      (client.ask "services" ""
        (if everywhere then Cluster.api.listServicesEverywhere selector
          else Cluster.api.listServices (client.namespaceOr inNamespace) selector)) := by
  refine ask_requests connected ?_ _ _
  cases everywhere with
  | true => exact (Requests.request _ _ _).andThen fun _ => .of_runsTo fun w =>
      ⟨_, runsTo_getWorld.trans (runsTo_pure (Cluster.servicesWhere w none selector))⟩
  | false => exact (Requests.request _ _ _).andThen fun _ => .of_runsTo fun w =>
      ⟨_, runsTo_getWorld.trans (runsTo_pure (Cluster.servicesWhere w
        (some (client.namespaceOr inNamespace)) selector))⟩

theorem mapServices_requests (services : List Service) :
    Requests [] (services.mapM mappedService) := by
  have hmapped (w : Cluster) : ∃ r, RunsTo (services.mapM mappedService) w r w := by
    induction services with
    | nil => exact ⟨.ok [], runsTo_pure []⟩
    | cons service rest ih =>
        obtain ⟨r, hrest⟩ := ih
        rw [List.mapM_cons]
        exact ⟨_, (runsTo_ofReading service.mapped).bind fun first _ =>
          hrest.bind fun others _ => runsTo_pure (first :: others)⟩
  exact .of_runsTo hmapped

/-- A listing makes one and the same request in all its attempts. -/
theorem listServices_requests (connected : client.hasApi = true) (inNamespace : Datum)
    (everywhere : Bool) {labels : Datum} {selector : Option String}
    (hselector : labelSelector? labels = .ok selector)
    (hnonempty : ∀ text, selector = some text → text ≠ "") (s : Session Cluster) :
    ∃ n, 1 ≤ n ∧ n ≤ 3 ∧
      ((client.listServices Cluster.api inNamespace everywhere labels).runOn s).2.world.calls =
        s.world.calls ++
          List.replicate n (client.listingCall inNamespace everywhere selector) := by
  have hpassed : (selector.filter fun text => !text.isEmpty) = selector := by
    cases selector with
    | none => rfl
    | some text =>
        have htext : text.isEmpty = false := by simpa using hnonempty text rfl
        simp [Option.filter, htext]
  unfold listServices
  refine Requests.retrying ?_ s
  rw [hselector]
  change Requests _ (client.ask "services" "" (if everywhere then
    Cluster.api.listServicesEverywhere (selector.filter fun text => !text.isEmpty)
    else Cluster.api.listServices (client.namespaceOr inNamespace)
      (selector.filter fun text => !text.isEmpty)) >>= _)
  rw [hpassed]
  refine (askServices_requests connected inNamespace everywhere selector).andThen fun services => ?_
  refine (mapServices_requests services).andThen fun listing => ?_
  exact .of_runsTo fun w => ⟨_, (runsTo_report _).trans (runsTo_pure listing)⟩

end KubernetesClient

/-! ## Nothing is lost -/

/-- There is a selector exactly where there are labels. Read at its commas, and each piece at its
first equals sign, it is the labels in their order; so labels with the same selector are the same.
A listing of services makes no request but those with this selector, which is met by what carries
all the labels. -/
theorem selector_demands_labels (labels : Option (List (String × String)))
    (separable : ∀ label ∈ labels.getD [], IsSeparable label) :
    ∃ selector, labelSelector? (ClusterRead.labelsDatum labels) = .ok selector ∧
      (selector = none ↔ labels.getD [] = []) ∧
      (∀ text, selector = some text → Cluster.requirements text = labels.getD []) ∧
      (∀ others : Option (List (String × String)),
        (∀ label ∈ others.getD [], IsSeparable label) →
        labelSelector? (ClusterRead.labelsDatum others) = .ok selector →
        others.getD [] = labels.getD []) ∧
      (∀ carried, Cluster.meets carried selector = true ↔
        ∀ label ∈ labels.getD [], (carried.getD []).lookup label.1 = some label.2) ∧
      ∀ (client : KubernetesClient), client.hasApi = true →
        ∀ (inNamespace : Datum) (everywhere : Bool) (s : Session Cluster), ∃ n, 1 ≤ n ∧ n ≤ 3 ∧
          ((client.listServices Cluster.api inNamespace everywhere
            (ClusterRead.labelsDatum labels)).runOn s).2.world.calls =
          s.world.calls ++
            List.replicate n (client.listingCall inNamespace everywhere selector) := by
  have hselector := labelSelector?_eq labels
  by_cases hempty : labels.getD [] = []
  · rw [if_pos hempty] at hselector
    refine ⟨none, hselector, by simp [hempty], by simp, ?_, ?_, ?_⟩
    · intro others _ hothers
      rw [labelSelector?_eq] at hothers
      by_cases hnone : others.getD [] = []
      · rw [hnone, hempty]
      · simp [hnone] at hothers
    · exact meets_iff (by simp [hempty]) (by simp)
    · intro client connected inNamespace everywhere s
      exact KubernetesClient.listServices_requests connected inNamespace everywhere hselector
        (by simp) s
  · rw [if_neg hempty] at hselector
    have hdecoded : ∀ text, some (selectorText (labels.getD [])) = some text →
        Cluster.requirements text = labels.getD [] := by
      rintro text ⟨⟩
      exact requirements_selectorText hempty separable
    refine ⟨some (selectorText (labels.getD [])), hselector, by simp [hempty], hdecoded, ?_, ?_, ?_⟩
    · intro others hseparable hothers
      rw [labelSelector?_eq] at hothers
      by_cases hnone : others.getD [] = []
      · simp [hnone] at hothers
      · simp only [hnone, if_false, Except.ok.injEq, Option.some.injEq] at hothers
        rw [← requirements_selectorText hnone hseparable, hothers]
        exact hdecoded _ rfl
    · exact meets_iff (by simp [hempty]) hdecoded
    · intro client connected inNamespace everywhere s
      refine KubernetesClient.listServices_requests connected inNamespace everywhere hselector ?_ s
      rintro text ⟨⟩
      exact selectorText_ne_empty hempty

/-- An empty label, and one whose value looks like a requirement. -/
def oddLabels : List (String × String) := [("", ""), ("team", "a=b"), ("tier", "")]

theorem oddLabels_separable : ∀ label ∈ oddLabels, IsSeparable label := by
  unfold IsSeparable
  decide +kernel

theorem selector_of_oddLabels :
    (∀ label ∈ oddLabels, IsSeparable label) ∧ connectedClient.hasApi = true ∧
      labelSelector? (ClusterRead.labelsDatum (some oddLabels)) = .ok (some "=,team=a=b,tier=") ∧
      Cluster.requirements "=,team=a=b,tier=" = oddLabels ∧
      ∃ n, 1 ≤ n ∧ n ≤ 3 ∧
        ((connectedClient.listServices Cluster.api .null false
          (ClusterRead.labelsDatum (some oddLabels))).runOn
            (.start (Cluster.ofSnapshot []))).2.world.calls =
          List.replicate n ⟨"list_namespaced_service", [.text "ns1"],
            [(.text "label_selector", .text "=,team=a=b,tier=")]⟩ := by
  obtain ⟨selector, hselector, -, hdecoded, -, -, hrequests⟩ :=
    selector_demands_labels (some oddLabels) oddLabels_separable
  have htext : selectorText oddLabels = "=,team=a=b,tier=" := by decide +kernel
  obtain rfl : selector = some "=,team=a=b,tier=" := by
    rw [labelSelector?_eq, Option.getD_some, htext] at hselector
    exact (Except.ok.inj hselector).symm
  exact ⟨oddLabels_separable, rfl, hselector, hdecoded _ rfl,
    hrequests connectedClient rfl .null false (.start (Cluster.ofSnapshot []))⟩

end ClusterDiscovery
