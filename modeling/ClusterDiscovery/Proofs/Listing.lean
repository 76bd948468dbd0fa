import ClusterDiscovery.Discovery.Client
import ClusterDiscovery.Proofs.Filtering
import ClusterDiscovery.Proofs.Resolution

/-! # The listing of services

A client lists services with one read and keeps those for which a predicate holds. A filter may
change the labels and the ports of a service that it looks at, but neither the texts of the
service nor any other service, so the names that remain are those of the listing, in its order.
-/

namespace ClusterDiscovery

open Datum Resource Expression ClusterDiscovery.Action

/-! ## Texts survive a filter -/

theorem onService_kept {α : Type} (service : List (Datum × Datum))
    (run : List (Datum × Value) → Run α) :
    ∃ store after entries depth, List.Forall₂ (Kept store) service entries ∧
      (onService (.map service) run).service = unloadService (depth + 1) after entries := by
  obtain ⟨entries, store, hload, -, hkept⟩ := loadValues_ok service #[]
  have hpositive : 0 < max nestingLimit (Datum.map service).depth :=
    Nat.lt_of_lt_of_le (by decide) (Nat.le_max_left _ _)
  obtain ⟨depth, hdepth⟩ := Nat.exists_eq_add_one.mpr hpositive
  unfold onService loadService
  simp only [hload, hdepth]
  cases (run entries).run store with
  | ok a after => exact ⟨store, after, entries, depth, hkept, rfl⟩
  | error fault after => exact ⟨store, after, entries, depth, hkept, rfl⟩

theorem unloadService_required {store after : Store} {service : List (Datum × Datum)}
    {entries : List (Datum × Value)} (h : List.Forall₂ (Kept store) service entries)
    {name s : String} (hnamed : named? service name = some (.text s)) (depth : Nat) :
    (unloadService (depth + 1) after entries).required name = .ok (.text s) := by
  have hfound : named? (entries.map fun held => (held.1, unloadTo (depth + 1) after held.2)) name =
      some (.text s) := by
    unfold named? Datum.lookup? at hnamed ⊢
    induction h with
    | nil => cases hnamed
    | @cons entry held _ _ hkept _ ih =>
        obtain ⟨hkey, hstands⟩ := hkept
        rw [List.find?_cons] at hnamed
        rw [List.map_cons, List.find?_cons]
        simp only [hkey]
        cases hsame : (Datum.text name).same entry.1 with
        | true =>
            rw [hsame] at hnamed
            have hvalue : entry.2 = .text s := Option.some.inj hnamed
            rw [hvalue] at hstands
            have hheld : held.2 = .text s := hstands
            rw [hheld]
            rfl
        | false =>
            rw [hsame] at hnamed
            exact ih hnamed
  simp only [unloadService, required, hfound]

theorem onService_required {α : Type} {service : List (Datum × Datum)} {name s : String}
    (hnamed : named? service name = some (.text s)) (run : List (Datum × Value) → Run α) :
    (onService (.map service) run).service.required name = .ok (.text s) := by
  obtain ⟨store, after, entries, depth, hkept, hservice⟩ := onService_kept service run
  rw [hservice]
  exact unloadService_required hkept hnamed depth

/-- Whatever a filter does to a service, the texts of the service stay. -/
theorem ServiceFilter.accepts_required (f : ServiceFilter) {service : List (Datum × Datum)}
    {name s : String} (hnamed : named? service name = some (.text s)) :
    (f.accepts (.map service)).1.service.required name = .ok (.text s) := by
  unfold ServiceFilter.accepts
  cases f.program with
  | none => simp only [required, hnamed]
  | some program =>
      simp only
      split
      · exact onService_required hnamed _
      · split <;> exact onService_required hnamed _

def Named (service : Datum) : Prop :=
  ∃ entries name, service = .map entries ∧ named? entries "name" = some (.text name)

theorem Named.required {service : Datum} (h : Named service) :
    service.required "name" = .ok (fieldOf service "name") := by
  obtain ⟨entries, name, rfl, hnamed⟩ := h
  simp [Datum.required, fieldOf, hnamed]

theorem Named.accepts {service : Datum} (h : Named service) (f : ServiceFilter) :
    (f.accepts service).1.service.required "name" = .ok (fieldOf service "name") := by
  obtain ⟨entries, name, rfl, hnamed⟩ := h
  rw [f.accepts_required hnamed]
  simp [fieldOf, hnamed]

namespace ServiceFilter

def answer (f : ServiceFilter) (service : Datum) : Except Failure Bool :=
  (f.accepts service).1.result.mapError .fault

end ServiceFilter

namespace DiscoveryClient

/-! ## One pass over a listing -/

section Pass

variable {World β : Type} {reader : ClusterReader World} {view : World → β}

/-- One step of a listing: the filter answers, and the service is put back. -/
theorem filteredNames_runsTo (f : ServiceFilter) (holds : Datum → Bool)
    (kept : ∀ position service w, view (reader.keepService position service w) = view w)
    {services : List Datum} (named : ∀ s ∈ services, Named s)
    (answers : ∀ s ∈ services, f.answer s = .ok (holds s)) (position : Nat) (w : World) :
    ∃ w', RunsTo (filteredNames reader f position services) w
        (.ok ((services.filter holds).map (fieldOf · "name"))) w' ∧ view w' = view w := by
  induction services generalizing position w with
  | nil => exact ⟨w, runsTo_pure [], rfl⟩
  | cons service rest ih =>
      have hnamed : Named service := named service List.mem_cons_self
      have hanswer : f.answer service = .ok (holds service) := answers service List.mem_cons_self
      obtain ⟨w', hrest, hview⟩ := ih (fun s hs => named s (List.mem_cons_of_mem _ hs))
        (fun s hs => answers s (List.mem_cons_of_mem _ hs)) (position + 1)
        (reader.keepService position (f.accepts service).1.service w)
      have hresult (w : World) :
          RunsTo (ofReading (f.accepts service).1.result) w (.ok (holds service)) w := by
        rw [← hanswer]
        exact runsTo_ofReading _
      refine ⟨w', ?_, hview.trans (kept _ _ _)⟩
      unfold filteredNames
      refine (runsTo_reports _).trans ((runsTo_modifyWorld _).trans ((hresult _).trans ?_))
      cases hholds : holds service with
      | true =>
          rw [List.filter_cons_of_pos hholds, List.map_cons]
          exact (runsTo_of_read (hnamed.accepts f)).trans (hrest.trans (runsTo_pure _))
      | false =>
          rw [List.filter_cons_of_neg (by simp [hholds])]
          exact hrest

theorem testedNames_runsTo {test : Datum → Except Failure Bool} {holds : Datum → Bool}
    {services : List Datum} (named : ∀ s ∈ services, Named s)
    (answers : ∀ s ∈ services, test s = .ok (holds s)) (w : World) :
    RunsTo (testedNames test services) w
      (.ok ((services.filter holds).map (fieldOf · "name"))) w := by
  induction services with
  | nil => exact runsTo_pure []
  | cons service rest ih =>
      have hrest := ih (fun s hs => named s (List.mem_cons_of_mem _ hs))
        fun s hs => answers s (List.mem_cons_of_mem _ hs)
      refine (runsTo_of_result (answers service List.mem_cons_self)).trans ?_
      cases hholds : holds service with
      | true =>
          rw [List.filter_cons_of_pos hholds, List.map_cons]
          exact (runsTo_of_read (named service List.mem_cons_self).required).trans
            (hrest.trans (runsTo_pure _))
      | false =>
          rw [List.filter_cons_of_neg (by simp [hholds])]
          exact hrest

end Pass

/-! ## The predicate of a call -/

/-- The test that an optional expression stands for. Without an expression, or with a blank one,
every service passes. -/
def expressionTest (expression : Option String) : Except Failure (Datum → Except Failure Bool) :=
  match expression with
  | none => .ok fun _ => .ok true
  | some source =>
    if (Text.trim source).isEmpty then .ok fun _ => .ok true
    else do
      let program ← compileExpression source
      return ServiceFilter.answer ⟨some source, some program⟩

/-- The test that a predicate stands for. Where it says nothing of its own, the configured
expression counts. -/
def predicateTest (configured : Option String) :
    ServicePredicate → Except Failure (Datum → Except Failure Bool)
  | .test holds => .ok holds
  | .configured => expressionTest configured
  | .expression source =>
    if (Text.trim source).isEmpty then expressionTest configured else expressionTest (some source)

theorem expressionTest_eq (expression : Option String) :
    expressionTest expression =
      (ServiceFilter.ofExpression expression).map ServiceFilter.answer := by
  cases expression with
  | none => rfl
  | some source =>
      simp only [expressionTest, ServiceFilter.ofExpression, Option.bind_some,
        ServiceFilter.nonBlank]
      cases (Text.trim source).isEmpty with
      | true => rfl
      | false =>
          simp only [Bool.false_eq_true, if_false]
          cases compileExpression source <;> rfl

/-- What a client is made of. -/
theorem make_ok {settings : DiscoverySettings} {secure : Option SecurePorts}
    {made : DiscoveryClient} (h : make settings secure = .ok made) :
    ServiceFilter.ofExpression settings.filter = .ok made.filter ∧
      made.secure = secure.getD (.ofInts settings.knownSecurePorts) ∧ made.settings = settings := by
  obtain ⟨filter, hfilter, hmade⟩ := bind_eq_ok h
  cases hmade
  exact ⟨hfilter, rfl, rfl⟩

/-- The loop over the listing that a predicate asks for. -/
def namesBy {World : Type} (reader : ClusterReader World) (configured : ServiceFilter)
    (predicate : ServicePredicate) : Except Failure (List Datum → Action World (List Datum)) :=
  match predicate with
  | .test holds => .ok (testedNames holds)
  | .configured => .ok (filteredNames reader configured 0)
  | .expression source =>
    if (Text.trim source).isEmpty then .ok (filteredNames reader configured 0)
    else do
      let filter ← ServiceFilter.ofExpression (some source)
      return filteredNames reader filter 0

/-- A predicate asks for a loop over tests or for one over the answers of a filter. -/
theorem namesBy_cases {World : Type} {reader : ClusterReader World} {configured : ServiceFilter}
    {predicate : ServicePredicate} {names : List Datum → Action World (List Datum)}
    (h : namesBy reader configured predicate = .ok names) :
    (∃ holds, names = testedNames holds) ∨ ∃ filter, names = filteredNames reader filter 0 := by
  cases predicate with
  | test holds =>
      cases h
      exact .inl ⟨holds, rfl⟩
  | configured =>
      cases h
      exact .inr ⟨configured, rfl⟩
  | expression source =>
      simp only [namesBy] at h
      split at h
      · cases h
        exact .inr ⟨configured, rfl⟩
      · obtain ⟨filter, -, h⟩ := bind_eq_ok h
        cases h
        exact .inr ⟨filter, rfl⟩

theorem getServices_disabled {World : Type} (client : DiscoveryClient)
    (reader : ClusterReader World) (predicate : ServicePredicate)
    (disabled : client.settings.enabled = false) :
    client.getServices reader predicate = pure [] := by
  simp only [getServices, disabled]
  rfl

theorem getServices_eq {World : Type} (client : DiscoveryClient) (reader : ClusterReader World)
    (predicate : ServicePredicate) (enabled : client.settings.enabled = true) :
    client.getServices reader predicate = (do
      let names ← ofResult (namesBy reader client.filter predicate)
      let services ← reader.listServices client.settings.allNamespaces client.settings.labelsDatum
      let names ← names services
      report (.debug ("Listed " ++ toString names.length ++ " of "
        ++ toString services.length ++ " services"))
      return names) := by
  unfold getServices namesBy
  simp only [enabled, Bool.not_true, Bool.false_eq_true, if_false]
  cases predicate with
  | test holds => rfl
  | configured => rfl
  | expression source =>
      simp only [ServiceFilter.nonBlank]
      cases (Text.trim source).isEmpty with
      | true => rfl
      | false =>
          simp only [Bool.false_eq_true, if_false]
          cases ServiceFilter.ofExpression (some source) <;> rfl

theorem namesBy_runsTo {World β : Type} {reader : ClusterReader World} {view : World → β}
    (kept : ∀ position service w, view (reader.keepService position service w) = view w)
    {configured : Option String} {f : ServiceFilter}
    (hf : ServiceFilter.ofExpression configured = .ok f) {predicate : ServicePredicate}
    {test : Datum → Except Failure Bool} (htest : predicateTest configured predicate = .ok test)
    {services : List Datum} {holds : Datum → Bool} (named : ∀ s ∈ services, Named s)
    (answers : ∀ s ∈ services, test s = .ok (holds s)) (w : World) :
    ∃ names w', namesBy reader f predicate = .ok names ∧
      RunsTo (names services) w (.ok ((services.filter holds).map (fieldOf · "name"))) w' ∧
      view w' = view w := by
  have hfiltered {g : ServiceFilter} (hg : g.answer = test) :
      ∃ w', RunsTo (filteredNames reader g 0 services) w
        (.ok ((services.filter holds).map (fieldOf · "name"))) w' ∧ view w' = view w :=
    filteredNames_runsTo g holds kept named (by rw [hg]; exact answers) 0 w
  have hconfigured (h : expressionTest configured = .ok test) : f.answer = test := by
    rw [expressionTest_eq, hf] at h
    exact Except.ok.inj h
  cases predicate with
  | test holds' =>
      obtain rfl : holds' = test := Except.ok.inj htest
      exact ⟨_, w, rfl, testedNames_runsTo named answers w, rfl⟩
  | configured =>
      obtain ⟨w', hrun, hview⟩ := hfiltered (hconfigured htest)
      exact ⟨_, w', rfl, hrun, hview⟩
  | expression source =>
      unfold predicateTest at htest
      unfold namesBy
      cases hblank : (Text.trim source).isEmpty with
      | true =>
          simp only [hblank, if_true] at htest ⊢
          obtain ⟨w', hrun, hview⟩ := hfiltered (hconfigured htest)
          exact ⟨_, w', rfl, hrun, hview⟩
      | false =>
          simp only [hblank, Bool.false_eq_true, if_false, expressionTest_eq] at htest ⊢
          cases hg : ServiceFilter.ofExpression (some source) with
          | error e =>
              rw [hg] at htest
              cases htest
          | ok g =>
              rw [hg] at htest
              obtain ⟨w', hrun, hview⟩ := hfiltered (Except.ok.inj htest)
              exact ⟨_, w', rfl, hrun, hview⟩

end DiscoveryClient

namespace Catalog

variable {catalog : Catalog}

/-- What is listed depends on the own namespace and on the entries alone. -/
theorem listed_congr {catalog' : Catalog} (h : catalog.ownNamespace = catalog'.ownNamespace)
    (everywhere : Bool) (labels : List (Datum × Datum)) (place : Nat)
    (entries : List CatalogEntry) :
    catalog.listed everywhere labels place entries =
      catalog'.listed everywhere labels place entries := by
  induction entries generalizing place with
  | nil => rfl
  | cons entry rest ih =>
      obtain ⟨key, service⟩ := entry
      simp only [listed, ih, h]

theorem listServices_runsTo (readable : catalog.failure = none) {everywhere : Bool}
    {labels : List (Datum × Datum)} {found : List (Nat × Datum)}
    (listing : catalog.listed everywhere labels 0 catalog.services = .ok found) :
    RunsTo (reader.listServices everywhere (.map labels)) catalog (.ok (found.map (·.2)))
      { catalog.recorded [⟨"list_services", [.null, .bool everywhere, .map labels]⟩] with
        listing := found.map (·.1) } := by
  refine (recordRead_runsTo readable _ _).trans (runsTo_getWorld.trans ?_)
  have hown : (catalog.recorded [⟨"list_services",
      [.null, .bool everywhere, .map labels]⟩]).ownNamespace = catalog.ownNamespace := rfl
  have hlisting := (listed_congr hown everywhere labels 0 catalog.services).trans listing
  exact (runsTo_of_read hlisting).trans ((runsTo_setWorld _).trans (runsTo_pure _))

/-- Putting a service back is no read. -/
theorem keepService_reads (position : Nat) (service : Datum) (catalog : Catalog) :
    (reader.keepService position service catalog).reads = catalog.reads := by
  unfold reader
  simp only
  split <;> rfl

end Catalog

namespace DiscoveryClient

/-- A call that finds a listing keeps the names of the services for which the predicate holds. -/
theorem getServices_runsTo (client : DiscoveryClient) (enabled : client.settings.enabled = true)
    {configured : Option String}
    (hfilter : ServiceFilter.ofExpression configured = .ok client.filter)
    {predicate : ServicePredicate} {test : Datum → Except Failure Bool}
    (htest : predicateTest configured predicate = .ok test) {catalog : Catalog}
    (readable : catalog.failure = none) {found : List (Nat × Datum)}
    (listing : catalog.listed client.settings.allNamespaces
      (client.settings.serviceLabels.map textEntry) 0 catalog.services = .ok found)
    {holds : Datum → Bool} (hlisted : ∀ s ∈ found.map (·.2), Named s ∧ test s = .ok (holds s)) :
    ∃ after, RunsTo (client.getServices Catalog.reader predicate) catalog
        (.ok (((found.map (·.2)).filter holds).map (fieldOf · "name"))) after ∧
      after.reads = catalog.reads ++ [⟨"list_services", [.null,
        .bool client.settings.allNamespaces,
        .map (client.settings.serviceLabels.map textEntry)]⟩] := by
  obtain ⟨names, after, hnames, hrun, hreads⟩ := namesBy_runsTo Catalog.keepService_reads
    hfilter htest (fun s hs => (hlisted s hs).1) (fun s hs => (hlisted s hs).2)
    { catalog.recorded [⟨"list_services", [.null, .bool client.settings.allNamespaces,
      .map (client.settings.serviceLabels.map textEntry)]⟩] with listing := found.map (·.1) }
  refine ⟨after, ?_, hreads⟩
  rw [getServices_eq client Catalog.reader predicate enabled]
  exact (runsTo_of_result hnames).trans <|
    (Catalog.listServices_runsTo readable listing).trans <| hrun.trans <|
    (runsTo_report _).trans (runsTo_pure _)

/-- What a call for services answers. A disabled client answers with nothing, and a rejected
expression with its failure; neither reads anything. Otherwise there is exactly one read, with
the settings of the moment, and the names are those of the listed services for which the
predicate holds, in the order of the listing. The configured expression is that of the settings
with which the client was made. -/
theorem services_of_listing (original current : DiscoverySettings) (secure : Option SecurePorts)
    {made : DiscoveryClient} (hmade : make original secure = .ok made)
    (predicate : ServicePredicate) :
    let client := { made with settings := current }
    (current.enabled = false →
      ∀ (World : Type) (reader : ClusterReader World) (session : Session World),
        (client.getServices reader predicate).runOn session = (.ok [], session)) ∧
    (current.enabled = true → ∀ source failure, predicate = .expression source →
      (Text.trim source).isEmpty = false → compileExpression source = .error failure →
      ∀ (World : Type) (reader : ClusterReader World) (session : Session World),
        (client.getServices reader predicate).runOn session = (.error failure, session)) ∧
    (current.enabled = true → ∀ test, predicateTest original.filter predicate = .ok test →
      ∀ (catalog : Catalog) (found : List (Nat × Datum)) (holds : Datum → Bool),
        catalog.failure = none →
        catalog.listed current.allNamespaces (current.serviceLabels.map textEntry) 0
          catalog.services = .ok found →
        (∀ s ∈ found.map (·.2), Named s ∧ test s = .ok (holds s)) →
        ∀ log waits,
          let call := (client.getServices Catalog.reader predicate).runOn ⟨catalog, log, waits⟩
          call.1 = .ok (((found.map (·.2)).filter holds).map (fieldOf · "name")) ∧
            call.2.world.reads = catalog.reads ++ [⟨"list_services",
              [.null, .bool current.allNamespaces,
                .map (current.serviceLabels.map textEntry)]⟩]) := by
  intro client
  have hfilter : ServiceFilter.ofExpression original.filter = .ok made.filter := by
    unfold make at hmade
    cases hf : ServiceFilter.ofExpression original.filter with
    | error e =>
        rw [hf] at hmade
        cases hmade
    | ok f =>
        rw [hf] at hmade
        cases hmade
        rfl
  refine ⟨fun disabled World reader session => ?_, fun enabled => ?_, fun enabled => ?_⟩
  · unfold getServices
    rw [show client.settings.enabled = false from disabled]
    rfl
  · rintro source failure rfl nonblank rejected World reader session
    have hnames : namesBy reader client.filter (.expression source) = .error failure := by
      simp [namesBy, nonblank, ServiceFilter.ofExpression, ServiceFilter.nonBlank, rejected, bind,
        Except.bind]
    rw [getServices_eq client reader _ enabled, hnames]
    rfl
  · intro test htest catalog found holds readable listing hlisted log waits
    obtain ⟨after, hcall, hreads⟩ :=
      getServices_runsTo client enabled hfilter htest readable listing hlisted
    obtain ⟨added, hcall⟩ := hcall log waits
    simp only [hcall]
    exact ⟨trivial, hreads⟩

def tiered (name inNamespace tier : String) : CatalogEntry :=
  (⟨.text inNamespace, .text name⟩, record [("name", .text name),
    ("namespace", .text inNamespace), ("labels", record [("tier", .text tier)])])

/-- Three services, two of which have the same name. -/
def street : Catalog :=
  { Catalog.empty "default" with
    services := [tiered "web" "default" "front", tiered "db" "default" "back",
      tiered "web" "edge" "front"] }

def frontSettings : DiscoverySettings :=
  { allNamespaces := true, filter := some "labels['tier'] == 'front'" }

/-- The answer of an expression to a service, if there is one. -/
def answerTo (expression : Option String) (service : Datum) : Option Bool :=
  (expressionTest expression).toOption.bind fun test => (test service).toOption

theorem test_of_answerTo {expression : Option String} {test : Datum → Except Failure Bool}
    (htest : expressionTest expression = .ok test) {service : Datum} {b : Bool}
    (h : answerTo expression service = some b) : test service = .ok b := by
  simp only [answerTo, htest, Except.toOption, Option.bind_some] at h
  cases hservice : test service with
  | error e => simp [hservice] at h
  | ok b' => simpa [hservice] using h

theorem tiered_named (name inNamespace tier : String) : Named (tiered name inNamespace tier).2 :=
  ⟨_, name, rfl, rfl⟩

set_option maxRecDepth 20000 in
theorem answers_on_street :
    street.services.map (fun s => answerTo frontSettings.filter s.2) =
      [some true, some false, some true] := by decide +kernel

/-- Two services with one name are two names. The filter is the one of the settings with which
the client was made. -/
theorem front_services_of_street :
    ∃ made, make frontSettings none = .ok made ∧
      let client := { made with settings := { frontSettings with filter := none } }
      let call := (client.getServices Catalog.reader .configured).runOn ⟨street, [], []⟩
      call.1 = .ok [.text "web", .text "web"] ∧
        call.2.world.reads = [⟨"list_services", [.null, .bool true, .map []]⟩] := by
  have hanswers := answers_on_street
  simp only [street, List.map_cons, List.map_nil, List.cons.injEq, and_true] at hanswers
  obtain ⟨hfirst, hsecond, hthird⟩ := hanswers
  obtain ⟨f, hf⟩ : ∃ f, ServiceFilter.ofExpression frontSettings.filter = .ok f := by
    cases hf : ServiceFilter.ofExpression frontSettings.filter with
    | error e => simp [answerTo, expressionTest_eq, hf, Except.map, Except.toOption] at hfirst
    | ok f => exact ⟨f, rfl⟩
  have htest : expressionTest frontSettings.filter = .ok f.answer := by
    rw [expressionTest_eq, hf]
    rfl
  obtain ⟨made, hmade⟩ : ∃ made, make frontSettings none = .ok made := by
    simp only [make, hf]
    exact ⟨_, rfl⟩
  have hlisted : ∀ s ∈ street.services.map (·.2),
      Named s ∧ f.answer s = .ok ((answerTo frontSettings.filter s).getD false) := by
    intro s hs
    simp only [street, List.map_cons, List.map_nil, List.mem_cons, List.not_mem_nil,
      or_false] at hs
    obtain rfl | rfl | rfl := hs
    · exact ⟨tiered_named _ _ _, by rw [test_of_answerTo htest hfirst, hfirst]; rfl⟩
    · exact ⟨tiered_named _ _ _, by rw [test_of_answerTo htest hsecond, hsecond]; rfl⟩
    · exact ⟨tiered_named _ _ _, by rw [test_of_answerTo htest hthird, hthird]; rfl⟩
  obtain ⟨hnames, hreads⟩ := (services_of_listing frontSettings
    { frontSettings with filter := none } none hmade .configured).2.2 rfl f.answer htest street
    [(0, (tiered "web" "default" "front").2), (1, (tiered "db" "default" "back").2),
      (2, (tiered "web" "edge" "front").2)]
    (fun s => (answerTo frontSettings.filter s).getD false) rfl rfl hlisted [] []
  refine ⟨made, hmade, hnames.trans ?_, hreads⟩
  simp only [List.map_cons, List.map_nil, List.filter_cons, hfirst, hsecond, hthird]
  rfl

end DiscoveryClient

end ClusterDiscovery
