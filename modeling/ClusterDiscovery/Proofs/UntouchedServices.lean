import ClusterDiscovery.Proofs.FailingReads
import ClusterDiscovery.Proofs.SideBySide
import ClusterDiscovery.Proofs.UnloadedServices

/-! # Calls that leave a catalog as it is

A listing hands out services that are stored in a catalog, and a filter looks at them one by one.
Where the filter calls nothing that changes a collection, every service is put back as it was. The
catalog then holds the same as before, and the same call finds the same names again.
-/

namespace ClusterDiscovery

open Datum Expression ClusterDiscovery.Action

/-! ## Actions that leave their world as it is -/

namespace Action

variable {World α β : Type} {w : World}

/-- However an action ends, it leaves the world as it is. -/
def Leaves (a : Action World α) (w : World) : Prop := ∃ r, a.RunsTo w r w

theorem RunsTo.leaves {a : Action World α} {r : Except Failure α} (h : a.RunsTo w r w) :
    a.Leaves w := ⟨r, h⟩

theorem Leaves.bind {a : Action World α} {f : α → Action World β} (ha : a.Leaves w)
    (hf : ∀ x, (f x).Leaves w) : (a >>= f).Leaves w := by
  obtain ⟨r, hrun⟩ := ha
  cases r with
  | error e => exact hrun.stop.leaves
  | ok x =>
      obtain ⟨r, hrest⟩ := hf x
      exact (hrun.trans hrest).leaves

end Action

/-! ## Listings -/

namespace Catalog

variable {catalog : Catalog}

/-- A service is listed in front of those that are stored after it, or it is not listed. -/
theorem listed_cons {everywhere : Bool} {labels : List (Datum × Datum)} {key : CatalogKey}
    {service : Datum} {rest : List CatalogEntry} {place : Nat} {found : List (Nat × Datum)}
    (h : catalog.listed everywhere labels place ((key, service) :: rest) = .ok found) :
    ∃ others, catalog.listed everywhere labels (place + 1) rest = .ok others ∧
      (found = others ∨ found = (place, service) :: others) := by
  have hfront {carried : Bool} {others : List (Nat × Datum)}
      (heq : found = if carried then (place, service) :: others else others) :
      found = others ∨ found = (place, service) :: others := by
    cases carried with
    | false => exact .inl heq
    | true => exact .inr heq
  simp only [Catalog.listed] at h
  cases hhere : everywhere || key.inNamespace.same (.text catalog.ownNamespace) with
  | false =>
      simp only [hhere, Bool.false_eq_true, if_false, pure_bind] at h
      obtain ⟨others, hothers, hfound⟩ := bind_eq_ok h
      exact ⟨others, hothers, .inl (Except.ok.inj hfound).symm⟩
  | true =>
      simp only [hhere, if_true] at h
      obtain ⟨carried, -, h⟩ := bind_eq_ok h
      obtain ⟨others, hothers, hfound⟩ := bind_eq_ok h
      exact ⟨others, hothers, hfront (Except.ok.inj hfound).symm⟩

/-- A listed service stands in its place. -/
theorem listed_place {everywhere : Bool} {labels : List (Datum × Datum)}
    {entries : List CatalogEntry} {start place : Nat} {found : List (Nat × Datum)}
    {service : Datum} (h : catalog.listed everywhere labels start entries = .ok found)
    (hmem : (place, service) ∈ found) :
    ∃ i key, place = start + i ∧ entries[i]? = some (key, service) := by
  induction entries generalizing start found with
  | nil =>
      cases h
      cases hmem
  | cons entry rest ih =>
      obtain ⟨key, stored⟩ := entry
      obtain ⟨others, hothers, hfound⟩ := listed_cons h
      have hlater (hrest : (place, service) ∈ others) :
          ∃ i key', place = start + i ∧ ((key, stored) :: rest)[i]? = some (key', service) := by
        obtain ⟨i, key', hplace, hentry⟩ := ih hothers hrest
        exact ⟨i + 1, key', by omega, hentry⟩
      obtain rfl | rfl := hfound
      · exact hlater hmem
      · rcases List.mem_cons.mp hmem with heq | hrest
        · obtain ⟨rfl, rfl⟩ := Prod.mk.inj heq
          exact ⟨0, key, rfl, rfl⟩
        · exact hlater hrest

/-- A service that is put back as it was changes nothing. -/
theorem keepService_same {position : Nat} {service : Datum}
    (h : ∀ place, catalog.listing[position]? = some place →
      ∃ key, catalog.services[place]? = some (key, service)) :
    reader.keepService position service catalog = catalog := by
  unfold reader
  simp only
  split
  · rfl
  · next place hplace =>
      obtain ⟨key, hentry⟩ := h place hplace
      have hservices : (catalog.services.modify place fun e => (e.1, service)) =
          catalog.services := by
        refine List.ext_getElem? fun i => ?_
        rw [List.getElem?_modify]
        by_cases hi : place = i
        · subst hi
          simp [hentry]
        · simp [hi]
      rw [hservices]

/-- A listing changes nothing that is stored. Where it gives services, it notes their places. -/
theorem listServices_leaves (catalog : Catalog) (everywhere : Bool)
    (labels : List (Datum × Datum)) :
    ∃ r after, RunsTo (reader.listServices everywhere (.map labels)) catalog r after ∧
      catalog.Alike after ∧ ∀ services, r = .ok services → catalog.failure = none ∧ ∃ found,
        catalog.listed everywhere labels 0 catalog.services = .ok found ∧
        services = found.map (·.2) ∧ after.listing = found.map (·.1) := by
  cases hfails : catalog.failure with
  | some f =>
      exact ⟨_, _, (recordRead_fails hfails _ _).stop, ⟨rfl, rfl, rfl, rfl⟩, fun _ h => nomatch h⟩
  | none =>
      cases hlisted : catalog.listed everywhere labels 0 catalog.services with
      | ok found =>
          refine ⟨_, _, listServices_runsTo hfails hlisted, ⟨rfl, rfl, rfl, rfl⟩, ?_⟩
          rintro services hservices
          exact ⟨rfl, found, rfl, (Except.ok.inj hservices).symm, rfl⟩
      | error fault =>
          let recorded :=
            catalog.recorded [⟨"list_services", [.null, .bool everywhere, .map labels]⟩]
          have hrecorded : catalog.Alike recorded := ⟨rfl, rfl, rfl, rfl⟩
          have hfault : RunsTo (ofReading (recorded.listed everywhere labels 0 recorded.services))
              recorded (.error (.fault fault)) recorded := by
            rw [← hrecorded.listed_eq, hlisted]
            exact runsTo_ofReading _
          exact ⟨_, recorded, (recordRead_runsTo hfails _ _).trans <|
            runsTo_getWorld.trans hfault.stop, hrecorded, fun _ h => nomatch h⟩

end Catalog

/-! ## Calls for services -/

namespace DiscoveryClient

variable {catalog : Catalog}

/-- A filter that leaves the listed services as they are leaves the catalog as it is. -/
theorem filteredNames_leaves {f : ServiceFilter} {services : List Datum} {position : Nat}
    (kept : ∀ service ∈ services, (f.accepts service).1.service = service)
    (placed : ∀ i service, services[i]? = some service → ∀ place,
      catalog.listing[position + i]? = some place →
        ∃ key, catalog.services[place]? = some (key, service)) :
    (filteredNames Catalog.reader f position services).Leaves catalog := by
  induction services generalizing position with
  | nil => exact (runsTo_pure []).leaves
  | cons service rest ih =>
      have hrest : (filteredNames Catalog.reader f (position + 1) rest).Leaves catalog :=
        ih (fun s hs => kept s (List.mem_cons_of_mem _ hs)) fun i s hs place hplace =>
          placed (i + 1) s hs place (by rwa [Nat.add_right_comm, Nat.add_assoc] at hplace)
      have hkept : (f.accepts service).1.service = service := kept service List.mem_cons_self
      have hsame : Catalog.reader.keepService position service catalog = catalog :=
        Catalog.keepService_same fun place hplace => placed 0 service rfl place hplace
      have hput : (modifyWorld (Catalog.reader.keepService position service)).Leaves catalog := by
        have hmodify := runsTo_modifyWorld (w := catalog)
          (Catalog.reader.keepService position service)
        rw [hsame] at hmodify
        exact hmodify.leaves
      unfold filteredNames
      simp only [hkept]
      refine (runsTo_reports _).leaves.bind fun _ => hput.bind fun _ => ?_
      refine (runsTo_ofReading _).leaves.bind fun holds => ?_
      split
      · refine (runsTo_ofReading _).leaves.bind fun name => hrest.bind fun names => ?_
        exact (runsTo_pure _).leaves
      · exact hrest

theorem testedNames_leaves (holds : Datum → Except Failure Bool) (services : List Datum) :
    (testedNames holds services).Leaves catalog := by
  induction services with
  | nil => exact (runsTo_pure []).leaves
  | cons service rest ih =>
      unfold testedNames
      refine (runsTo_of_result rfl).leaves.bind fun passes => ?_
      split
      · refine (runsTo_ofReading _).leaves.bind fun name => ih.bind fun names => ?_
        exact (runsTo_pure _).leaves
      · exact ih

/-- The filter that a predicate stands for. A test is none. -/
def selecting (client : DiscoveryClient) : ServicePredicate → Option ServiceFilter
  | .test _ => none
  | .configured => some client.filter
  | .expression source =>
    if (Text.trim source).isEmpty then some client.filter
    else (ServiceFilter.ofExpression (some source)).toOption

theorem namesBy_selecting {World : Type} {reader : ClusterReader World} {client : DiscoveryClient}
    {predicate : ServicePredicate} {names : List Datum → Action World (List Datum)}
    (h : namesBy reader client.filter predicate = .ok names) :
    (∃ holds, names = testedNames holds) ∨
      ∃ f, client.selecting predicate = some f ∧ names = filteredNames reader f 0 := by
  cases predicate with
  | test holds =>
      cases h
      exact .inl ⟨holds, rfl⟩
  | configured =>
      cases h
      exact .inr ⟨client.filter, rfl, rfl⟩
  | expression source =>
      unfold namesBy at h
      unfold selecting
      cases hblank : (Text.trim source).isEmpty with
      | true =>
          simp only [hblank, if_true] at h ⊢
          cases h
          exact .inr ⟨client.filter, rfl, rfl⟩
      | false =>
          simp only [hblank, Bool.false_eq_true, if_false] at h ⊢
          obtain ⟨f, hf, h⟩ := bind_eq_ok h
          cases h
          exact .inr ⟨f, by rw [hf]; rfl, rfl⟩

/-- The services that a call puts to its predicate. -/
def candidates (client : DiscoveryClient) (catalog : Catalog) : List Datum :=
  if client.settings.enabled && catalog.failure.isNone then
    ((catalog.listed client.settings.allNamespaces
      (client.settings.serviceLabels.map textEntry) 0 catalog.services).toOption.getD []).map (·.2)
  else []

theorem candidates_alike (client : DiscoveryClient) {catalog' : Catalog}
    (h : catalog.Alike catalog') : client.candidates catalog = client.candidates catalog' := by
  unfold candidates
  rw [h.listed_eq, h.failure]

/-- Nothing that is evaluated on a service makes a call that may change it. -/
def ChangesNothing (client : DiscoveryClient) (predicate : ServicePredicate)
    (catalog : Catalog) : Prop :=
  ∀ f ∈ client.selecting predicate, ∀ service ∈ client.candidates catalog,
    f.changingCalls service = []

instance (client : DiscoveryClient) (predicate : ServicePredicate) (catalog : Catalog) :
    Decidable (client.ChangesNothing predicate catalog) :=
  inferInstanceAs (Decidable (∀ f ∈ client.selecting predicate,
    ∀ service ∈ client.candidates catalog, f.changingCalls service = []))

/-- The services of a listing stand in the places that it notes. -/
theorem listing_placed {everywhere : Bool} {labels : List (Datum × Datum)}
    {found : List (Nat × Datum)} {after : Catalog}
    (hlisted : catalog.listed everywhere labels 0 catalog.services = .ok found)
    (halike : catalog.Alike after) (hlisting : after.listing = found.map (·.1)) {i place : Nat}
    {service : Datum} (hservice : (found.map (·.2))[i]? = some service)
    (hplace : after.listing[0 + i]? = some place) :
    ∃ key, after.services[place]? = some (key, service) := by
  rw [List.getElem?_map, Option.map_eq_some_iff] at hservice
  obtain ⟨⟨start, listed⟩, hentry, rfl⟩ := hservice
  rw [hlisting, Nat.zero_add, List.getElem?_map, hentry] at hplace
  obtain rfl : start = place := Option.some.inj hplace
  obtain ⟨j, key, rfl, hstored⟩ := Catalog.listed_place hlisted (List.mem_of_getElem? hentry)
  exact ⟨key, by rw [← halike.services, Nat.zero_add]; exact hstored⟩

theorem getServices_leaves {client : DiscoveryClient} {predicate : ServicePredicate}
    (calm : client.ChangesNothing predicate catalog) :
    ∃ r after, RunsTo (client.getServices Catalog.reader predicate) catalog r after ∧
      catalog.Alike after := by
  cases enabled : client.settings.enabled with
  | false =>
      rw [client.getServices_disabled _ _ enabled]
      exact ⟨_, catalog, runsTo_pure [], .refl catalog⟩
  | true =>
      rw [client.getServices_eq _ _ enabled]
      cases hnames : namesBy Catalog.reader client.filter predicate with
      | error e => exact ⟨_, catalog, (runsTo_of_result rfl).stop, .refl catalog⟩
      | ok names =>
          obtain ⟨r, after, hlist, halike, hfound⟩ := catalog.listServices_leaves
            client.settings.allNamespaces (client.settings.serviceLabels.map textEntry)
          cases r with
          | error e => exact ⟨_, after, (runsTo_of_result rfl).trans hlist.stop, halike⟩
          | ok services =>
              obtain ⟨readable, found, hlisted, rfl, hlisting⟩ := hfound services rfl
              have hcandidates : client.candidates catalog = found.map (·.2) := by
                simp [candidates, enabled, readable, hlisted, Except.toOption]
              have hpass : (names (found.map (·.2))).Leaves after := by
                obtain ⟨holds, rfl⟩ | ⟨f, hf, rfl⟩ := namesBy_selecting hnames
                · exact testedNames_leaves holds _
                · refine filteredNames_leaves (fun service hservice => ?_) fun _ _ hservice _ =>
                    listing_placed hlisted halike hlisting hservice
                  exact f.accepts_untouched service (calm f hf service (hcandidates ▸ hservice))
              obtain ⟨r, hrest⟩ := hpass.bind fun found => (runsTo_report _).leaves.bind fun _ =>
                (runsTo_pure found).leaves
              exact ⟨r, after, (runsTo_of_result rfl).trans (hlist.trans hrest), halike⟩

/-- Catalogs that hold the same give a call the same result. -/
theorem getServices_alike {client : DiscoveryClient} {predicate : ServicePredicate}
    {catalog' : Catalog} {r r' : Except Failure (List Datum)} {after after' : Catalog}
    (halike : catalog.Alike catalog')
    (h : RunsTo (client.getServices Catalog.reader predicate) catalog r after)
    (h' : RunsTo (client.getServices Catalog.reader predicate) catalog' r' after') : r' = r := by
  obtain ⟨result, _, _, hcall, hcall', -⟩ :=
    lockstep_getServices (Agree.refl client) predicate _ _ (.ofAlike halike)
  unfold Session.start at hcall hcall'
  rw [← h.result [] [], ← h'.result [] [], hcall, hcall']

end DiscoveryClient

namespace DiscoveryClient

/-- A client that selects nothing by itself. -/
def onlooker : DiscoveryClient :=
  ⟨{ allNamespaces := true }, .ofInts [], ⟨none, none⟩⟩

/-- Takes a label out of a copy of the labels. -/
def copiedTier : ServicePredicate := .expression "labels.copy().pop('tier') == 'front'"

set_option maxRecDepth 20000 in
theorem copiedTier_calls :
    (onlooker.selecting copiedTier).isSome ∧ (onlooker.candidates street).length = 3 ∧
      ∀ f ∈ onlooker.selecting copiedTier, ∀ service ∈ onlooker.candidates street,
        (f.calls service).length = 2 ∧ f.changingCalls service = [] := by
  decide +kernel

-- Without the copy, the label is taken out of the service itself.
set_option maxRecDepth 20000 in
example : ¬ onlooker.ChangesNothing (.expression "labels.pop('tier') == 'front'") street := by
  decide +kernel

end DiscoveryClient

end ClusterDiscovery
