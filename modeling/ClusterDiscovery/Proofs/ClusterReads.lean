import ClusterDiscovery.Client.KubernetesClient
import ClusterDiscovery.Proofs.Listing
import ClusterDiscovery.Proofs.Retries

/-! # How reads of a cluster end

A read makes up to three attempts, each of which the interface of the cluster answers in its own
way: with what was asked for, with a refusal, or not at all because the connection breaks down.
The read ends with its last attempt. Refusals become failures of the collaborator, or null for one
object that does not exist. A breakdown, however, is passed on as it is.
-/

namespace ClusterDiscovery

open Datum Resource ClusterDiscovery.Action

/-! ## Scripts of answers -/

/-- How the interface answers one attempt. -/
inductive ApiAnswer (α : Type) where
  | response (a : α)
  /-- A refusal may come without a status or without a reason. -/
  | refusal (status : Option Int) (reason : Option String)
  | breakdown (kind message : String)

namespace ApiAnswer

variable {α β : Type}

def map (f : α → β) : ApiAnswer α → ApiAnswer β
  | .response a => .response (f a)
  | .refusal status reason => .refusal status reason
  | .breakdown kind message => .breakdown kind message

def statusDatum (status : Option Int) : Datum :=
  match status with
  | some status => .int status
  | none => .null

def toResult : ApiAnswer α → Except Failure α
  | .response a => .ok a
  | .refusal status reason => .error (.refused (statusDatum status) (textOrNull reason))
  | .breakdown kind message => .error (.external kind message)

/-- Whether another attempt may be answered better. -/
def isRetryable : ApiAnswer α → Bool
  | .response _ => false
  | .refusal (some status) _ => !(400 ≤ status && status < 500)
  | .refusal none _ => true
  | .breakdown _ _ => true

/-- The connection broke down. -/
def IsBreakdown (answer : ApiAnswer α) : Prop := ∃ kind message, answer = .breakdown kind message

end ApiAnswer

abbrev ServedService := { service : Service // service.metadata.isSome }

def ServedService.record (service : ServedService) : Datum :=
  service.val.mapped.toOption.getD .null

theorem ServedService.mapped_eq (service : ServedService) :
    service.val.mapped = .ok service.record := by
  obtain ⟨⟨metadata, spec⟩, present⟩ := service
  cases metadata with
  | none => cases present
  | some metadata => rfl

/-- The answers to successive attempts, for every kind of request. -/
structure ClusterScript where
  endpoints : Nat → ApiAnswer Endpoints
  endpointsListing : Nat → ApiAnswer (List Endpoints)
  service : Nat → ApiAnswer ServedService
  serviceListing : Nat → ApiAnswer (List ServedService)

namespace ClusterScript

/-- Makes one attempt. The world counts them. -/
def attempt {α : Type} (answers : Nat → ApiAnswer α) : Action Nat α := do
  let number ← getWorld
  setWorld (number + 1)
  ofResult (answers number).toResult

/-- An interface that follows a script where discovery reads, and does anything else elsewhere. -/
def api (script : ClusterScript) (others : ClusterApi Nat) : ClusterApi Nat where
  readEndpoints _ _ := attempt script.endpoints
  listEndpoints _ := attempt script.endpointsListing
  listEndpointsEverywhere _ := attempt script.endpointsListing
  readService _ _ := return (← attempt script.service).val
  listServices _ _ := return (← attempt script.serviceListing).map (·.val)
  listServicesEverywhere _ := return (← attempt script.serviceListing).map (·.val)
  readPod := others.readPod
  getResources := others.getResources
  loadInCluster := others.loadInCluster
  loadKubeconfigData := others.loadKubeconfigData
  loadKubeconfig := others.loadKubeconfig

theorem attempt_runsTo {α : Type} (answers : Nat → ApiAnswer α) (number : Nat) :
    RunsTo (attempt answers) number (answers number).toResult (number + 1) :=
  runsTo_getWorld.trans ((runsTo_setWorld _).trans (runsTo_of_result rfl))

end ClusterScript

/-! ## One attempt of a read -/

namespace ApiAnswer

variable {α β : Type}

/-- What an attempt makes of its answer. If something stands for an absent object, it is the
result when there is no such object. -/
def settled (absent : Option α) (resource place : String) : ApiAnswer α → Except Failure α
  | .response a => .ok a
  | .refusal status reason =>
    match if status = some 404 then absent else none with
    | some a => .ok a
    | none => .error (KubernetesClient.unreadable resource place (statusDatum status)
        (textOrNull reason))
  | .breakdown kind message => .error (.external kind message)

theorem toResult_map (f : α → β) (answer : ApiAnswer α) :
    (answer.map f).toResult = answer.toResult.map f := by
  cases answer <;> rfl

theorem settled_map (f : α → β) (resource place : String) (answer : ApiAnswer α) :
    (answer.map f).settled none resource place = (answer.settled none resource place).map f := by
  cases answer with
  | refusal status reason => simp [map, settled, Except.map]
  | _ => rfl

theorem isRetryable_map (f : α → β) (answer : ApiAnswer α) :
    (answer.map f).isRetryable = answer.isRetryable := by
  cases answer with
  | refusal status reason => cases status <;> rfl
  | _ => rfl

/-- An attempt is repeated if another may be answered better. -/
theorem settled_failsForNow (absent : Option α) (resource place : String) (answer : ApiAnswer α) :
    FailsForNow (answer.settled absent resource place) ↔ answer.isRetryable = true := by
  cases answer with
  | response a => exact ⟨nofun, nofun⟩
  | breakdown kind message => exact ⟨fun _ => rfl, fun _ => ⟨_, rfl, rfl⟩⟩
  | refusal status reason =>
      have hrefused : FailsForNow (.error (KubernetesClient.unreadable resource place
          (statusDatum status) (textOrNull reason)) : Except Failure α) ↔
          (refusal status reason : ApiAnswer α).isRetryable = true := by
        constructor
        · rintro ⟨f, hf, hretry⟩
          cases hf
          cases status <;> exact hretry
        · intro hretry
          refine ⟨_, rfl, ?_⟩
          cases status <;> exact hretry
      by_cases habsent : status = some 404
      · subst habsent
        cases absent with
        | none => exact hrefused
        | some a => exact ⟨nofun, nofun⟩
      · simp only [settled, if_neg habsent]
        exact hrefused

end ApiAnswer

namespace KubernetesClient

variable {client : KubernetesClient} {World α : Type} {w w' : World}

theorem ask_runsTo (connected : client.hasApi = true) (resource place : String)
    {request : Action World α} {answer : ApiAnswer α} (h : request.RunsTo w answer.toResult w') :
    (client.ask resource place request).RunsTo w (answer.settled none resource place) w' := by
  unfold ask
  simp only [connected, Bool.not_true, Bool.false_eq_true, if_false]
  refine h.outcome.trans ?_
  cases answer with
  | response a => exact runsTo_pure a
  | refusal status reason =>
      simp only [ApiAnswer.settled, ite_self]
      exact runsTo_throw _
  | breakdown kind message => exact runsTo_throw _

theorem isAbsence_statusDatum (status : Option Int) :
    isAbsence (ApiAnswer.statusDatum status) = true ↔ status = some 404 := by
  cases status with
  | none => exact ⟨nofun, nofun⟩
  | some status =>
      simp [isAbsence, ApiAnswer.statusDatum, same, sameNumber, number?, Number.compareNumbers]

theorem askOne_runsTo (connected : client.hasApi = true) (resource place absence : String)
    {request : Action World Datum} {answer : ApiAnswer Datum}
    (h : request.RunsTo w answer.toResult w') :
    (client.askOne resource place absence request).RunsTo w
      (answer.settled (some .null) resource place) w' := by
  unfold askOne
  simp only [connected, Bool.not_true, Bool.false_eq_true, if_false]
  refine h.outcome.trans ?_
  cases answer with
  | response d => exact runsTo_pure d
  | breakdown kind message => exact runsTo_throw _
  | refusal status reason =>
      have habsence := isAbsence_statusDatum status
      by_cases habsent : status = some 404
      · simp only [ApiAnswer.toResult, ApiAnswer.settled, if_pos habsent]
        rw [if_pos (habsence.mpr habsent)]
        exact (runsTo_report _).trans (runsTo_pure _)
      · simp only [ApiAnswer.toResult, ApiAnswer.settled, if_neg habsent]
        rw [if_neg fun h => habsent (habsence.mp h)]
        exact runsTo_throw _

end KubernetesClient

/-! ## Reads end with their last attempt -/

/-- A read ends as its last attempt is settled. There are at most three attempts; all but the last
one could have been answered better, and so could the last one if there were more. -/
def Settles {α : Type} (read : Action Nat α) (answer : Nat → ApiAnswer α) (absent : Option α) :
    Prop :=
  ∃ resource place, ∀ log waits, ∃ last ≤ 2,
    (read.runOn ⟨0, log, waits⟩).1 = (answer last).settled absent resource place ∧
    (read.runOn ⟨0, log, waits⟩).2.world = last + 1 ∧
    (∀ k < last, (answer k).isRetryable = true) ∧
    (last < 2 → (answer last).isRetryable = false)

theorem retrying_settles {α : Type} {attempt : Action Nat α} {answer : Nat → ApiAnswer α}
    {absent : Option α} (resource place : String)
    (h : ∀ n, attempt.RunsTo n ((answer n).settled absent resource place) (n + 1)) :
    Settles (retrying {} attempt) answer absent := by
  refine ⟨resource, place, fun log waits => ?_⟩
  obtain ⟨last, hle, hrun, hbefore, hlast⟩ := retryFrom_runOn {} attempt 1 2 ⟨0, log, waits⟩
  have hcount := attemptAfter_counted h {} 1 ⟨0, log, waits⟩
  simp only [Nat.zero_add] at hcount
  have hrun : (retrying {} attempt).runOn ⟨0, log, waits⟩ = _ := hrun
  refine ⟨last, hle, ?_, ?_, fun k hk => ?_, fun h => ?_⟩
  · rw [hrun]
    exact (hcount last).1
  · rw [hrun]
    exact (hcount last).2
  · have hfails := hbefore k hk
    rwa [(hcount k).1, ApiAnswer.settled_failsForNow] at hfails
  · have hfails := hlast h
    rwa [(hcount last).1, ApiAnswer.settled_failsForNow, Bool.not_eq_true] at hfails

theorem Settles.map {α β : Type} {read : Action Nat α} {answer : Nat → ApiAnswer α}
    (h : Settles read answer none) (view : α → β) :
    Settles (do return view (← read)) (fun n => (answer n).map view) none := by
  obtain ⟨resource, place, h⟩ := h
  refine ⟨resource, place, fun log waits => ?_⟩
  obtain ⟨last, hle, hresult, hworld, hbefore, hlast⟩ := h log waits
  have hrun : (do return view (← read) : Action Nat β).runOn ⟨0, log, waits⟩ =
      ((read.runOn ⟨0, log, waits⟩).1.map view, (read.runOn ⟨0, log, waits⟩).2) := by
    rw [bind_runOn]
    rcases read.runOn ⟨0, log, waits⟩ with ⟨_ | _, _⟩ <;> rfl
  refine ⟨last, hle, ?_, ?_, fun k hk => ?_, fun h => ?_⟩
  · rw [hrun, hresult, ApiAnswer.settled_map]
  · rw [hrun, hworld]
  · rw [ApiAnswer.isRetryable_map]
    exact hbefore k hk
  · rw [ApiAnswer.isRetryable_map]
    exact hlast h

namespace KubernetesClient

variable (script : ClusterScript) (others : ClusterApi Nat) {client : KubernetesClient}

theorem getEndpoints_settles (connected : client.hasApi = true) (name inNamespace : Datum) :
    Settles (client.getEndpoints (script.api others) name inNamespace)
      (fun n => (script.endpoints n).map Endpoints.mapped) (some .null) := by
  refine retrying_settles "endpoints" _ fun n => askOne_runsTo connected _ _ _ ?_
  rw [ApiAnswer.toResult_map]
  exact (ClusterScript.attempt_runsTo script.endpoints n).map Endpoints.mapped

theorem getService_settles (connected : client.hasApi = true) (name inNamespace : Datum) :
    Settles (client.getService (script.api others) name inNamespace)
      (fun n => (script.service n).map ServedService.record) (some .null) := by
  refine retrying_settles "service" _ fun n => askOne_runsTo connected _ _ _ ?_
  rw [ApiAnswer.toResult_map]
  change RunsTo ((ClusterScript.attempt script.service >>= fun service => pure service.val) >>=
    mappedService) n _ (n + 1)
  rw [bind_assoc]
  simp only [pure_bind]
  exact (ClusterScript.attempt_runsTo script.service n).mapTo fun service =>
    runsTo_of_read service.mapped_eq

theorem reportListing_runsTo (ending : String) (listing : List Datum) (w : Nat) :
    RunsTo (reportListing ending listing) w (.ok listing) w :=
  (runsTo_report _).trans (runsTo_pure listing)

theorem listEndpoints_settles (connected : client.hasApi = true) (inNamespace : Datum) :
    Settles (client.listEndpoints (script.api others) inNamespace)
      (fun n => (script.endpointsListing n).map (List.map Endpoints.mapped)) none := by
  refine retrying_settles "endpoints"
    ("namespace " ++ Failure.shown (client.namespaceOr inNamespace) ++ ": ") fun n => ?_
  rw [ApiAnswer.settled_map]
  exact (ask_runsTo connected _ _ (ClusterScript.attempt_runsTo script.endpointsListing n)).mapTo
    fun listing => reportListing_runsTo _ _ _

theorem listEndpointsEverywhere_settles (connected : client.hasApi = true) (name : Datum) :
    Settles (client.listEndpointsEverywhere (script.api others) name)
      (fun n => (script.endpointsListing n).map (List.map Endpoints.mapped)) none := by
  refine retrying_settles "endpoints" "all namespaces: " fun n => ?_
  rw [ApiAnswer.settled_map]
  exact (ask_runsTo connected _ _ (ClusterScript.attempt_runsTo script.endpointsListing n)).mapTo
    fun listing => reportListing_runsTo _ _ _

theorem mapM_mappedService_runsTo (services : List ServedService) (w : Nat) :
    RunsTo ((services.map (·.val)).mapM mappedService) w
      (.ok (services.map ServedService.record)) w := by
  induction services with
  | nil => exact runsTo_pure []
  | cons service rest ih =>
      rw [List.map_cons, List.mapM_cons]
      exact (runsTo_of_read service.mapped_eq).trans (ih.trans (runsTo_pure _))

theorem listServices_settles (connected : client.hasApi = true) (inNamespace : Datum)
    (everywhere : Bool) {labels : Datum} {selector : Option String}
    (hselector : labelSelector? labels = .ok selector) :
    Settles (client.listServices (script.api others) inNamespace everywhere labels)
      (fun n => (script.serviceListing n).map (List.map ServedService.record)) none := by
  refine retrying_settles "services" "" fun n => ?_
  rw [ApiAnswer.settled_map]
  refine (runsTo_of_read hselector).trans ?_
  have hanswer : RunsTo (do return (← ClusterScript.attempt script.serviceListing).map (·.val)) n
      ((script.serviceListing n).map (List.map (·.val))).toResult (n + 1) := by
    rw [ApiAnswer.toResult_map]
    exact (ClusterScript.attempt_runsTo script.serviceListing n).map _
  have hask := ask_runsTo connected "services" "" hanswer
  rw [ApiAnswer.settled_map] at hask
  cases everywhere <;> cases hsettled : (script.serviceListing n).settled none "services" "" with
  | error f =>
      rw [hsettled] at hask
      exact hask.stop
  | ok services =>
      rw [hsettled] at hask
      exact hask.trans ((mapM_mappedService_runsTo services _).trans (reportListing_runsTo _ _ _))

end KubernetesClient

/-! ## The reads of a client -/

/-- A read with its arguments. -/
inductive ClusterRead where
  | endpoints (name : String) (inNamespace : Option String)
  | endpointsListing (inNamespace : Option String)
  | endpointsEverywhere (name : Option String)
  | service (name : String) (inNamespace : Option String)
  | serviceListing (inNamespace : Option String) (everywhere : Bool)
      (labels : Option (List (String × String)))

namespace ClusterRead

def labelsDatum (labels : Option (List (String × String))) : Datum :=
  match labels with
  | some labels => .map (labels.map textEntry)
  | none => .null

/-- Runs a read. A listing is a list of records. -/
def run {World : Type} (api : ClusterApi World) (client : KubernetesClient) :
    ClusterRead → Action World Datum
  | .endpoints name inNamespace =>
    client.getEndpoints api (.text name) (textOrNull inNamespace)
  | .endpointsListing inNamespace =>
    return .list (← client.listEndpoints api (textOrNull inNamespace))
  | .endpointsEverywhere name =>
    return .list (← client.listEndpointsEverywhere api (textOrNull name))
  | .service name inNamespace => client.getService api (.text name) (textOrNull inNamespace)
  | .serviceListing inNamespace everywhere labels =>
    return .list (← client.listServices api (textOrNull inNamespace) everywhere
      (labelsDatum labels))

/-- What stands for an object that does not exist, in the reads that ask for one by its name. -/
def absent : ClusterRead → Option Datum
  | .endpoints _ _ | .service _ _ => some .null
  | _ => none

/-- The answer to an attempt of a read, in its mapped form. -/
def answer (script : ClusterScript) (number : Nat) : ClusterRead → ApiAnswer Datum
  | .endpoints _ _ => (script.endpoints number).map Endpoints.mapped
  | .endpointsListing _ | .endpointsEverywhere _ =>
    ((script.endpointsListing number).map (List.map Endpoints.mapped)).map .list
  | .service _ _ => (script.service number).map ServedService.record
  | .serviceListing .. =>
    ((script.serviceListing number).map (List.map ServedService.record)).map .list

theorem labelSelector?_labelsDatum (labels : Option (List (String × String))) :
    ∃ selector, labelSelector? (labelsDatum labels) = .ok selector := by
  match labels with
  | none => exact ⟨none, rfl⟩
  | some [] => exact ⟨none, rfl⟩
  | some (label :: rest) =>
      have hentries : ((label :: rest).map textEntry).mapM labelRequirement =
          .ok (((label :: rest).map textEntry).map fun e =>
            Failure.shown e.1 ++ "=" ++ Failure.shown e.2) := by
        refine mapM_eq_ok fun e he => ?_
        obtain ⟨pair, -, rfl⟩ := List.mem_map.mp he
        rfl
      refine ⟨some (String.intercalate "," (((label :: rest).map textEntry).map fun e =>
        Failure.shown e.1 ++ "=" ++ Failure.shown e.2)), ?_⟩
      unfold labelSelector? labelsDatum
      simp only [hentries]
      rfl

theorem run_settles (script : ClusterScript) (others : ClusterApi Nat) {client : KubernetesClient}
    (connected : client.hasApi = true) (read : ClusterRead) :
    Settles (read.run (script.api others) client) (fun n => read.answer script n) read.absent := by
  cases read with
  | endpoints name inNamespace =>
      exact KubernetesClient.getEndpoints_settles script others connected _ _
  | endpointsListing inNamespace =>
      exact (KubernetesClient.listEndpoints_settles script others connected _).map Datum.list
  | endpointsEverywhere name =>
      exact (KubernetesClient.listEndpointsEverywhere_settles script others connected
        _).map Datum.list
  | service name inNamespace =>
      exact KubernetesClient.getService_settles script others connected _ _
  | serviceListing inNamespace everywhere labels =>
      obtain ⟨selector, hselector⟩ := labelSelector?_labelsDatum labels
      exact (KubernetesClient.listServices_settles script others connected _ everywhere
        hselector).map Datum.list

end ClusterRead

/-! ## What is promised of a read -/

/-- The outcomes that are promised of a read by the answer to its last attempt: what was asked
for, null for one object that does not exist, or a failure of the collaborator with the status of
the answer. -/
inductive Promised (absent : Option Datum) : ApiAnswer Datum → Except Failure Datum → Prop
  | found (d : Datum) : Promised absent (.response d) (.ok d)
  | absence (reason : Option String) (d : Datum) :
      absent = some d → Promised absent (.refusal (some 404) reason) (.ok d)
  | refused (status : Option Int) (reason : Option String) (resource message : String) :
      Promised absent (.refusal status reason)
        (.error (.collaborator resource message (ApiAnswer.statusDatum status) []))
  | broken (kind text resource message : String) :
      Promised absent (.breakdown kind text) (.error (.collaborator resource message .null []))

theorem ApiAnswer.settled_promised (absent : Option Datum) (resource place : String)
    (answer : ApiAnswer Datum) :
    Promised absent answer (answer.settled absent resource place) ↔ ¬ answer.IsBreakdown := by
  cases answer with
  | response d => exact ⟨fun _ => nofun, fun _ => .found d⟩
  | refusal status reason =>
      refine ⟨fun _ => nofun, fun _ => ?_⟩
      by_cases habsent : status = some 404
      · subst habsent
        cases absent with
        | none => exact .refused _ _ _ _
        | some d => exact .absence _ _ rfl
      · simp only [settled, if_neg habsent]
        exact .refused _ _ _ _
  | breakdown kind message => exact ⟨nofun, fun h => absurd ⟨kind, message, rfl⟩ h⟩

/-- A read ends with its last attempt, and it keeps its promise unless the connection broke down
in that attempt. There are at most three attempts, and all before the last one could have been
answered better. A breakdown in the last one is not made a failure of the collaborator but passed
on as it is. Only an object that is asked for by its name can be absent, after a refusal with the
status 404; no other failure is taken for an absence. -/
theorem reads_keep_promise_unless_broken (script : ClusterScript) (others : ClusterApi Nat)
    (client : KubernetesClient) (connected : client.hasApi = true) (read : ClusterRead)
    (log : List LogEntry) (waits : List Float) :
    let outcome := (read.run (script.api others) client).runOn ⟨0, log, waits⟩
    ∃ last ≤ 2, outcome.2.world = last + 1 ∧
      (∀ k < last, (read.answer script k).isRetryable = true) ∧
      (last < 2 → (read.answer script last).isRetryable = false) ∧
      (Promised read.absent (read.answer script last) outcome.1 ↔
        ¬ (read.answer script last).IsBreakdown) ∧
      (∀ kind message, read.answer script last = .breakdown kind message →
        outcome.1 = .error (.external kind message)) ∧
      ∀ d, outcome.1 = .ok d → read.answer script last = .response d ∨
        read.absent = some d ∧ ∃ reason, read.answer script last = .refusal (some 404) reason := by
  intro outcome
  obtain ⟨resource, place, h⟩ := read.run_settles script others connected
  obtain ⟨last, hle, hresult, hworld, hbefore, hlast⟩ := h log waits
  have hresult : outcome.1 = (read.answer script last).settled read.absent resource place := hresult
  have hpromised := (read.answer script last).settled_promised read.absent resource place
  refine ⟨last, hle, hworld, hbefore, hlast, ?_, ?_, ?_⟩
  · rw [hresult]
    exact hpromised
  · intro kind message hbroken
    rw [hresult, hbroken]
    rfl
  · intro d hd
    rw [hresult] at hd
    have hkept : ¬ (read.answer script last).IsBreakdown := by
      rintro ⟨kind, message, hbroken⟩
      rw [hbroken] at hd
      cases hd
    have houtcome := hpromised.mpr hkept
    rw [hd] at houtcome
    generalize read.answer script last = answer at houtcome
    cases houtcome with
    | found => exact .inl rfl
    | absence reason d habsent => exact .inr ⟨habsent, reason, rfl⟩

/-- An interface that is stopped at every request. -/
def stoppedApi : ClusterApi Nat where
  readEndpoints _ _ := throw .interrupted
  listEndpoints _ := throw .interrupted
  listEndpointsEverywhere _ := throw .interrupted
  readService _ _ := throw .interrupted
  listServices _ _ := throw .interrupted
  listServicesEverywhere _ := throw .interrupted
  readPod _ _ := throw .interrupted
  getResources := throw .interrupted
  loadInCluster := throw .interrupted
  loadKubeconfigData _ _ := throw .interrupted
  loadKubeconfig _ _ := throw .interrupted

/-- The connection is reset, the interface is busy, and then it does not answer in time. -/
def flakyAnswer {α : Type} : Nat → ApiAnswer α
  | 0 => .breakdown "OSError" "connection reset"
  | 1 => .refusal (some 503) (some "busy")
  | _ => .breakdown "TimeoutError" "timed out"

def flakyScript : ClusterScript := ⟨flakyAnswer, flakyAnswer, flakyAnswer, flakyAnswer⟩

/-- A client of the namespace `ns1` that is connected. -/
def connectedClient : KubernetesClient :=
  { KubernetesClient.make (.map [(.text "namespace", .text "ns1")]) none none none none none
      .absent with hasApi := true }

theorem flaky_read_escapes :
    connectedClient.hasApi = true ∧
      (((ClusterRead.endpoints "web" none).run (flakyScript.api stoppedApi)
        connectedClient).runOn ⟨0, [], []⟩).1 = .error (.external "TimeoutError" "timed out") ∧
      ¬ Promised (some .null) ((ClusterRead.endpoints "web" none).answer flakyScript 2)
        (((ClusterRead.endpoints "web" none).run (flakyScript.api stoppedApi)
          connectedClient).runOn ⟨0, [], []⟩).1 := by
  obtain ⟨last, hle, -, -, hlast, hpromised, hbroken, -⟩ := reads_keep_promise_unless_broken
    flakyScript stoppedApi connectedClient rfl (.endpoints "web" none) [] []
  have htwo : last = 2 := by
    match last, hle with
    | 0, _ => cases hlast (by decide)
    | 1, _ => cases hlast (by decide)
    | 2, _ => rfl
  subst htwo
  exact ⟨rfl, hbroken _ _ rfl, fun h => hpromised.mp h ⟨_, _, rfl⟩⟩

end ClusterDiscovery
