import ClusterDiscovery.Proofs.SideBySide
import ClusterDiscovery.Settings.Assignment

/-! # Clients that live long

A client keeps the secure ports and the filter with which it was made, and nothing else. Whatever
happened before, a call is answered as a client would answer that was made just then.
-/

namespace ClusterDiscovery

open Datum ClusterDiscovery.Action

/-! ## Histories -/

/-- What can happen to a client and to the catalog that it reads. -/
inductive ClientStep where
  | putEndpoints (key : CatalogKey) (object : Datum)
  | putService (key : CatalogKey) (object : Datum)
  /-- From now on reads fail, or no longer do. -/
  | fail (failure : Option Failure)
  | assign (path : List String) (value : Datum)
  /-- The metadata settings are replaced as a whole. -/
  | assignMetadata (metadata : MetadataSettings)
  | instances (name : Datum)
  | services (predicate : ServicePredicate)

namespace ClientStep

/-- The settings after a step. An assignment to what is no field of theirs raises an error, and they
stay as they are. -/
def settingsAfter (settings : DiscoverySettings) : ClientStep → DiscoverySettings
  | .assign path value =>
    match settings.assign path value with
    | .ok after => after
    | .error _ => settings
  | .assignMetadata metadata => { settings with metadata }
  | _ => settings

/-- The catalog after a step, as far as the step itself changes it. -/
def catalogAfter (catalog : Catalog) : ClientStep → Catalog
  | .putEndpoints key object => catalog.putEndpoints key object
  | .putService key object => catalog.putService key object
  | .fail failure => { catalog with failure }
  | _ => catalog

/-- Assignments that come too late for a client that is already made. -/
def isLate : ClientStep → Bool
  | .assign path _ => path == ["known_secure_ports"] || path == ["filter"]
  | _ => false

end ClientStep

inductive Reply where
  | instances (found : List ServiceInstance)
  | names (names : List Datum)

structure Answer where
  result : Except Failure Reply
  reads : List CatalogRead
  log : List LogEntry

/-- A client and its catalog in the course of time. -/
structure LivingClient where
  client : DiscoveryClient
  catalog : Catalog

namespace LivingClient

/-- A call to the client. The catalog stays as the call leaves it. -/
def ask (living : LivingClient) (call : Action Catalog Reply) : LivingClient × Answer :=
  let (result, after) := call.runOn (.start living.catalog)
  ({ living with catalog := after.world },
    ⟨result, after.world.reads.drop living.catalog.reads.length, after.log⟩)

def call? (client : DiscoveryClient) : ClientStep → Option (Action Catalog Reply)
  | .instances name => some do return .instances (← client.getInstances Catalog.reader name)
  | .services predicate => some do return .names (← client.getServices Catalog.reader predicate)
  | _ => none

/-- One step, with the answer if it is a call. -/
def step (living : LivingClient) (next : ClientStep) : LivingClient × Option Answer :=
  match call? living.client next with
  | some call => ((living.ask call).1, some (living.ask call).2)
  | none =>
    ({ client := { living.client with settings := next.settingsAfter living.client.settings }
       catalog := next.catalogAfter living.catalog }, none)

def after (living : LivingClient) (steps : List ClientStep) : LivingClient :=
  steps.foldl (fun now next => (now.step next).1) living

def answers : List ClientStep → LivingClient → List Answer
  | [], _ => []
  | next :: rest, living => (living.step next).2.toList ++ answers rest (living.step next).1

end LivingClient

/-! ## Steps and runs -/

/-- Both settings have the field that is assigned or neither has it, and they agree after it. -/
theorem DiscoverySettings.Agree.assign {settings settings' : DiscoverySettings}
    (h : settings.Agree settings') (path : List String) (value : Datum) :
    (∃ f, settings.assign path value = .error f ∧ settings'.assign path value = .error f) ∨
      ∃ after after', settings.assign path value = .ok after ∧
        settings'.assign path value = .ok after' ∧ after.Agree after' := by
  obtain ⟨henabled, hall, hlabels, hport, hmetadata⟩ := h
  unfold DiscoverySettings.assign
  split
  case h_8 field =>
    rw [hmetadata]
    cases settings'.metadata.assign field value with
    | error f => exact .inl ⟨f, rfl, rfl⟩
    | ok metadata => exact .inr ⟨_, _, rfl, rfl, henabled, hall, hlabels, hport, rfl⟩
  case h_9 => exact .inl ⟨_, rfl, rfl⟩
  all_goals exact .inr ⟨_, _, rfl, rfl, by constructor <;> first | rfl | assumption⟩

theorem ClientStep.settingsAfter_agree {settings settings' : DiscoverySettings}
    (h : settings.Agree settings') (next : ClientStep) :
    (next.settingsAfter settings).Agree (next.settingsAfter settings') := by
  cases next with
  | assign path value =>
      unfold ClientStep.settingsAfter
      obtain ⟨f, hf, hf'⟩ | ⟨after, after', hafter, hafter', hagree⟩ := h.assign path value
      · simpa only [hf, hf'] using h
      · simpa only [hafter, hafter'] using hagree
  | assignMetadata metadata =>
      exact ⟨h.enabled, h.allNamespaces, h.serviceLabels, h.primaryPortName, rfl⟩
  | _ => exact h

theorem ClientStep.catalogAfter_alike {catalog catalog' : Catalog} (h : catalog.Alike catalog')
    (next : ClientStep) : (next.catalogAfter catalog).Alike (next.catalogAfter catalog') := by
  obtain ⟨hown, hendpoints, hservices, hfailure⟩ := h
  cases next with
  | putEndpoints key object =>
      exact ⟨hown, congrArg (Catalog.store key object) hendpoints, hservices, hfailure⟩
  | putService key object =>
      exact ⟨hown, hendpoints, congrArg (Catalog.store key object) hservices, hfailure⟩
  | fail failure => exact ⟨hown, hendpoints, hservices, rfl⟩
  | _ => exact ⟨hown, hendpoints, hservices, hfailure⟩

/-- Where an object is stored does not depend on what is stored there. -/
theorem Catalog.store_keys_congr {entries entries' : List CatalogEntry}
    (h : entries'.map (·.1) = entries.map (·.1)) (key : CatalogKey) (object : Datum) :
    (store key object entries').map (·.1) = (store key object entries).map (·.1) := by
  have hany (entries : List CatalogEntry) :
      (entries.any fun e => e.1.same key) = (entries.map (·.1)).any fun k => k.same key := by
    rw [List.any_map]
    rfl
  rw [store_keys, store_keys, hany, hany, h]

theorem ClientStep.catalogAfter_kept {catalog catalog' : Catalog} (h : catalog.Kept catalog')
    (next : ClientStep) : (next.catalogAfter catalog).Kept (next.catalogAfter catalog') := by
  obtain ⟨hown, hendpoints, hkeys, hfailure⟩ := h
  cases next with
  | putEndpoints key object =>
      exact ⟨hown, congrArg (Catalog.store key object) hendpoints, hkeys, hfailure⟩
  | putService key object =>
      exact ⟨hown, hendpoints, Catalog.store_keys_congr hkeys key object, hfailure⟩
  | fail failure => exact ⟨hown, hendpoints, hkeys, rfl⟩
  | _ => exact ⟨hown, hendpoints, hkeys, hfailure⟩

/-- A late assignment changes nothing that calls read. -/
theorem ClientStep.settingsAfter_late {next : ClientStep} (h : next.isLate = true)
    (settings : DiscoverySettings) : (next.settingsAfter settings).Agree settings := by
  cases next with
  | assign path value =>
      have hpath : path = ["known_secure_ports"] ∨ path = ["filter"] := by
        simpa [ClientStep.isLate] using h
      obtain rfl | rfl := hpath <;> exact ⟨rfl, rfl, rfl, rfl, rfl⟩
  | _ => cases h

namespace LivingClient

/-- Living clients that nobody can tell apart. -/
structure Agree (living living' : LivingClient) : Prop where
  client : living.client.Agree living'.client
  catalog : living.catalog.Alike living'.catalog

variable {living living' : LivingClient}

theorem ask_agree (h : living.Agree living') {call call' : Action Catalog Reply}
    (hcall : Lockstep living.catalog living'.catalog false call call' false) :
    (living.ask call).2 = (living'.ask call').2 ∧
      (living.ask call).1.Agree (living'.ask call').1 ∧
      living.catalog.Kept (living.ask call).1.catalog := by
  obtain ⟨r, t, t', ha, hb, hparallel⟩ := hcall _ _ (.ofAlike h.catalog)
  obtain ⟨made, hmade, hmade'⟩ := hparallel.reads
  unfold ask
  simp only [ha, hb]
  refine ⟨?_, ⟨h.client, hparallel.alike⟩, hparallel.kept⟩
  rw [hmade, hmade', hparallel.log, List.drop_left, List.drop_left]

theorem call?_agree {client client' : DiscoveryClient} (h : client.Agree client')
    (start start' : Catalog) (next : ClientStep) :
    (call? client next = none ∧ call? client' next = none) ∨
      ∃ call call', call? client next = some call ∧ call? client' next = some call' ∧
        Lockstep start start' false call call' false := by
  cases next with
  | instances name =>
      exact .inr ⟨_, _, rfl, rfl, .bind (lockstep_getInstances h name) fun _ => .pure _⟩
  | services predicate =>
      exact .inr ⟨_, _, rfl, rfl, .bind (lockstep_getServices h predicate) fun _ => .pure _⟩
  | _ => exact .inl ⟨rfl, rfl⟩

/-- Clients that agree give the same answer to a step and agree after it. -/
theorem step_agree (h : living.Agree living') (next : ClientStep) :
    (living.step next).2 = (living'.step next).2 ∧
      (living.step next).1.Agree (living'.step next).1 := by
  unfold step
  obtain ⟨hnone, hnone'⟩ | ⟨call, call', hcall, hcall', hlockstep⟩ :=
    call?_agree h.client living.catalog living'.catalog next
  · rw [hnone, hnone']
    exact ⟨rfl, ⟨ClientStep.settingsAfter_agree h.client.settings next, h.client.secure,
      h.client.filter⟩, ClientStep.catalogAfter_alike h.catalog next⟩
  · rw [hcall, hcall']
    obtain ⟨hanswer, hagree, -⟩ := ask_agree h hlockstep
    exact ⟨congrArg some hanswer, hagree⟩

/-- Clients that agree answer alike for ever. -/
theorem answers_agree (h : living.Agree living') (steps : List ClientStep) :
    answers steps living = answers steps living' := by
  induction steps generalizing living living' with
  | nil => rfl
  | cons next rest ih =>
      obtain ⟨hanswer, hagree⟩ := step_agree h next
      rw [answers, answers, hanswer, ih hagree]

theorem step_late {next : ClientStep} (h : next.isLate = true) (living : LivingClient) :
    (living.step next).2 = none ∧ (living.step next).1.Agree living := by
  cases next with
  | assign path value =>
      exact ⟨rfl, ⟨ClientStep.settingsAfter_late h living.client.settings, rfl, rfl⟩,
        ⟨rfl, rfl, rfl, rfl⟩⟩
  | _ => cases h

/-- Late assignments may as well be left out. -/
theorem answers_without_late (steps : List ClientStep) (living : LivingClient) :
    answers steps living = answers (steps.filter fun next => !next.isLate) living := by
  induction steps generalizing living with
  | nil => rfl
  | cons next rest ih =>
      cases hlate : next.isLate with
      | true =>
          obtain ⟨hnone, hagree⟩ := step_late hlate living
          rw [List.filter_cons_of_neg (by simp [hlate]), ← ih, answers, hnone]
          exact answers_agree hagree rest
      | false =>
          rw [List.filter_cons_of_pos (by simp [hlate]), answers, answers, ih]

theorem answers_append (before later : List ClientStep) (living : LivingClient) :
    answers (before ++ later) living =
      answers before living ++ answers later (living.after before) := by
  induction before generalizing living with
  | nil => rfl
  | cons next rest ih =>
      rw [List.cons_append, answers, answers, ih, List.append_assoc]
      rfl

/-! ## What a client and a catalog become -/

theorem Agree.refl (living : LivingClient) : living.Agree living :=
  ⟨.refl living.client, .refl living.catalog⟩

/-- A client changes by assignments alone. A failed call leaves it as it is. -/
theorem step_client (living : LivingClient) (next : ClientStep) :
    (living.step next).1.client =
      { living.client with settings := next.settingsAfter living.client.settings } := by
  cases next <;> rfl

/-- A catalog changes by its own steps. A call may only change what the services hold. -/
theorem step_catalog (living : LivingClient) (next : ClientStep) :
    (next.catalogAfter living.catalog).Kept (living.step next).1.catalog := by
  have hagree := Agree.refl living
  cases next with
  | instances name =>
      exact (ask_agree hagree <| .bind (lockstep_getInstances hagree.client name)
        fun found => .pure (Reply.instances found)).2.2
  | services predicate =>
      exact (ask_agree hagree <| .bind (lockstep_getServices hagree.client predicate)
        fun found => .pure (Reply.names found)).2.2
  | _ => exact ⟨rfl, rfl, rfl, rfl⟩

theorem after_client (living : LivingClient) (steps : List ClientStep) :
    (living.after steps).client = { living.client with
      settings := steps.foldl ClientStep.settingsAfter living.client.settings } := by
  induction steps generalizing living with
  | nil => rfl
  | cons next rest ih =>
      have hrest := ih (living.step next).1
      rw [step_client] at hrest
      exact hrest

theorem after_catalog {catalog : Catalog} {living : LivingClient}
    (h : catalog.Kept living.catalog) (steps : List ClientStep) :
    (steps.foldl ClientStep.catalogAfter catalog).Kept (living.after steps).catalog := by
  induction steps generalizing catalog living with
  | nil => exact h
  | cons next rest ih =>
      have hnext : (next.catalogAfter catalog).Kept (living.step next).1.catalog :=
        (ClientStep.catalogAfter_kept h next).trans (step_catalog living next)
      exact ih hnext

end LivingClient

/-- A catalog that nobody has read yet. -/
def Catalog.unread (catalog : Catalog) : Catalog := { catalog with reads := [], listing := [] }

namespace DiscoveryClient

/-- A client has no memory beyond what it captured when it was made. After any steps, failed calls
included, it answers all further calls as a client would that is made then, with the current
settings, the original secure ports and the original filter, on a catalog that holds the same and
was never read. Its settings are what the assignments made of them, and its catalog is what the
steps made of it, apart from what filters did to the services that they looked at. Assignments to
the known secure ports and to the filter may as well be left out. -/
theorem answers_as_if_new (original : DiscoverySettings) (secure : Option SecurePorts)
    {made : DiscoveryClient} (hmade : make original secure = .ok made) (catalog : Catalog)
    (steps later : List ClientStep) :
    let start : LivingClient := ⟨made, catalog⟩
    let now := start.after steps
    (∃ fresh, make { now.client.settings with filter := original.filter }
        (some (secure.getD (.ofInts original.knownSecurePorts))) = .ok fresh ∧
      LivingClient.answers later now = LivingClient.answers later ⟨fresh, now.catalog.unread⟩) ∧
    now.client = { made with settings := steps.foldl ClientStep.settingsAfter original } ∧
    (steps.foldl ClientStep.catalogAfter catalog).Kept now.catalog ∧
    LivingClient.answers (steps ++ later) start =
      LivingClient.answers steps start ++
        LivingClient.answers (later.filter fun next => !next.isLate) now := by
  intro start now
  obtain ⟨hfilter, hsecure, hsettings⟩ := make_ok hmade
  have hclient : now.client =
      { made with settings := steps.foldl ClientStep.settingsAfter original } := by
    rw [← hsettings]
    exact start.after_client steps
  have hstart : catalog.Kept start.catalog := ⟨rfl, rfl, rfl, rfl⟩
  refine ⟨?_, hclient, LivingClient.after_catalog hstart steps, ?_⟩
  · let fresh : DiscoveryClient := ⟨{ now.client.settings with filter := original.filter },
      secure.getD (.ofInts original.knownSecurePorts), made.filter⟩
    have hagree : now.Agree ⟨fresh, now.catalog.unread⟩ := by
      refine ⟨⟨⟨rfl, rfl, rfl, rfl, rfl⟩, ?_, ?_⟩, ⟨rfl, rfl, rfl, rfl⟩⟩
      · rw [hclient]
        exact hsecure
      · rw [hclient]
    refine ⟨fresh, ?_, LivingClient.answers_agree hagree later⟩
    simp only [make, hfilter]
    rfl
  · rw [LivingClient.answers_append, LivingClient.answers_without_late later]

/-- A call, a failing one, and assignments of which only the first two have an effect on calls. -/
def busyDay : List ClientStep :=
  [.instances (.text "web"), .fail (some (.external "OSError" "down")), .services .configured,
    .fail none, .assign ["all_namespaces"] (.bool true), .assignMetadata { addPorts := false },
    .assign ["known_secure_ports"] (.list []), .assign ["filter"] (.text "false")]

theorem answers_after_busyDay :
    let original : DiscoverySettings := { primaryPortName := some "https" }
    ∃ made, make original none = .ok made ∧
      let now := LivingClient.after ⟨made, shop⟩ busyDay
      now.client.settings.allNamespaces = true ∧ now.client.settings.knownSecurePorts = [] ∧
        now.client.secure = .standard ∧
        ∃ fresh, make { now.client.settings with filter := none } (some .standard) = .ok fresh ∧
          LivingClient.answers [.instances (.text "web"), .services .configured] now =
            LivingClient.answers [.instances (.text "web"), .services .configured]
              ⟨fresh, now.catalog.unread⟩ := by
  intro original
  refine ⟨_, rfl, ?_⟩
  intro now
  obtain ⟨hfresh, hclient, -⟩ := answers_as_if_new original none rfl shop busyDay
    [.instances (.text "web"), .services .configured]
  have hclient : now.client = _ := hclient
  refine ⟨?_, ?_, ?_, hfresh⟩
  · rw [hclient]
    rfl
  · rw [hclient]
    rfl
  · rw [hclient]
    rfl

end DiscoveryClient

end ClusterDiscovery
