import ClusterDiscovery.Proofs.Resolution

/-! # All namespaces and one namespace

A catalog keeps every object under its own namespace and name. There a call that looks into all
namespaces answers what the namespaces answer one after the other, failures included.
-/

namespace ClusterDiscovery

open Datum Resource

/-! ## Keys -/

namespace Catalog

def OwnKey (entry : CatalogEntry) : Prop :=
  ∃ inNamespace name, inNamespace ≠ "" ∧ entry.1 = ⟨.text inNamespace, .text name⟩ ∧
    fieldOf entry.2 "namespace" = .text inNamespace ∧ fieldOf entry.2 "name" = .text name

/-- All endpoints are stored under their own keys, and no two under one key. -/
structure Keyed (catalog : Catalog) : Prop where
  own : ∀ entry ∈ catalog.endpoints, OwnKey entry
  distinct : (catalog.endpoints.map (·.1)).Nodup

theorem same_textKey {key : CatalogKey} {inNamespace name : String} :
    key.same ⟨.text inNamespace, .text name⟩ = true ↔ key = ⟨.text inNamespace, .text name⟩ := by
  obtain ⟨k, n⟩ := key
  simp [CatalogKey.same, same_text_right]

theorem mem_store {key : CatalogKey} {object : Datum} {entries : List CatalogEntry}
    {entry : CatalogEntry} (h : entry ∈ store key object entries) :
    entry ∈ entries ∨ entry.2 = object ∧ (entry.1 = key ∨ entry.1.same key = true) := by
  induction entries with
  | nil =>
      obtain rfl := List.mem_singleton.mp h
      exact .inr ⟨rfl, .inl rfl⟩
  | cons first rest ih =>
      obtain ⟨k, o⟩ := first
      unfold store at h
      split at h
      · next hsame =>
          obtain rfl | hmem := List.mem_cons.mp h
          · exact .inr ⟨rfl, .inr hsame⟩
          · exact .inl (List.mem_cons_of_mem _ hmem)
      · obtain rfl | hmem := List.mem_cons.mp h
        · exact .inl List.mem_cons_self
        · obtain hrest | hnew := ih hmem
          · exact .inl (List.mem_cons_of_mem _ hrest)
          · exact .inr hnew

/-- A key that is there keeps its place, a new one comes last. -/
theorem store_keys (key : CatalogKey) (object : Datum) (entries : List CatalogEntry) :
    (store key object entries).map (·.1) =
      if entries.any fun e => e.1.same key then entries.map (·.1)
      else entries.map (·.1) ++ [key] := by
  induction entries with
  | nil => rfl
  | cons first rest ih =>
      obtain ⟨k, o⟩ := first
      unfold store
      cases hsame : k.same key with
      | true => simp [hsame]
      | false =>
          cases hrest : rest.any fun e => e.1.same key <;> simp [hsame, hrest, ih]

theorem keyed_empty (ownNamespace : String) : (empty ownNamespace).Keyed where
  own := fun _ h => absurd h List.not_mem_nil
  distinct := List.nodup_nil

/-- Storing an object under its own key keeps a catalog keyed. -/
theorem Keyed.putEndpoints {catalog : Catalog} (h : catalog.Keyed) {key : CatalogKey}
    {object : Datum} (hown : OwnKey (key, object)) : (catalog.putEndpoints key object).Keyed := by
  obtain ⟨inNamespace, name, hnonempty, rfl, hfields⟩ := hown
  constructor
  · intro entry hmem
    obtain hold | ⟨rfl, hkey⟩ := mem_store hmem
    · exact h.own entry hold
    · have hkey : entry.1 = ⟨.text inNamespace, .text name⟩ := by
        obtain hkey | hsame := hkey
        · exact hkey
        · exact same_textKey.mp hsame
      exact ⟨inNamespace, name, hnonempty, hkey, hfields⟩
  · change ((store _ object catalog.endpoints).map (·.1)).Nodup
    rw [store_keys]
    split
    · exact h.distinct
    · next habsent =>
        refine List.nodup_append.mpr ⟨h.distinct, by simp, ?_⟩
        intro k hk k' hk' heq
        obtain rfl := List.mem_singleton.mp hk'
        obtain ⟨entry, hentry, rfl⟩ := List.mem_map.mp hk
        exact habsent (List.any_eq_true.mpr ⟨entry, hentry, same_textKey.mpr heq⟩)

/-- Stored endpoints are found under their key. -/
theorem Keyed.find {catalog : Catalog} (h : catalog.Keyed) {entry : CatalogEntry}
    (hmem : entry ∈ catalog.endpoints) {inNamespace name : String}
    (hkey : entry.1 = ⟨.text inNamespace, .text name⟩) :
    find ⟨.text inNamespace, .text name⟩ catalog.endpoints = entry.2 := by
  have hdistinct := h.distinct
  generalize catalog.endpoints = entries at hmem hdistinct
  induction entries with
  | nil => cases hmem
  | cons first rest ih =>
      rw [List.map_cons, List.nodup_cons] at hdistinct
      obtain rfl | hrest := List.mem_cons.mp hmem
      · simp [Catalog.find, same_textKey.mpr hkey]
      · have hfirst : first.1.same ⟨.text inNamespace, .text name⟩ = false := by
          refine Bool.eq_false_iff.mpr fun hsame => hdistinct.1 ?_
          rw [same_textKey.mp hsame, ← hkey]
          exact List.mem_map_of_mem hrest
        simpa [Catalog.find, hfirst] using ih hrest hdistinct.2

/-- The same catalog for a client in another namespace. -/
def within (catalog : Catalog) (inNamespace : String) : Catalog :=
  { catalog with ownNamespace := inNamespace }

end Catalog

/-! ## Instances from their fields -/

theorem Datum.textOrNull_injective : Function.Injective textOrNull := by
  intro s t h
  cases s <;> cases t <;> simp_all [textOrNull]

theorem ServiceInstance.metadataDatum_injective {i j : ServiceInstance}
    (h : i.metadataDatum = j.metadataDatum) : i.metadata = j.metadata := by
  refine (List.map_inj_right ?_).mp (Datum.map.inj h)
  intro first second hpair
  simp only [Prod.mk.injEq, text.injEq] at hpair
  exact Prod.ext hpair.1 hpair.2

/-- An instance is determined by its fields. -/
theorem ServiceInstance.fields_injective : Function.Injective ServiceInstance.fields := by
  intro i j h
  simp only [ServiceInstance.fields, record, List.map_cons, List.map_nil, Datum.map.injEq,
    List.cons.injEq, Prod.mk.injEq, true_and, text.injEq, int.injEq, bool.injEq, and_true] at h
  obtain ⟨hid, hservice, hnamespace, hhost, hport, hmetadata, hsecure⟩ := h
  have hpairs := ServiceInstance.metadataDatum_injective hmetadata
  have hid := Datum.textOrNull_injective hid
  have hnamespace := Datum.textOrNull_injective hnamespace
  cases i
  cases j
  simp_all

theorem eq_of_map_fields {r s : Except Failure (List ServiceInstance)}
    (h : r.map (List.map ServiceInstance.fields) = s.map (List.map ServiceInstance.fields)) :
    r = s := by
  cases r <;> cases s <;> simp only [Except.map, Except.ok.injEq, Except.error.injEq,
    reduceCtorEq] at h
  · rw [h]
  · rw [(List.map_inj_right fun _ _ => @ServiceInstance.fields_injective _ _).mp h]

namespace DiscoveryClient

/-- The same client, looking into all namespaces or into its own. -/
def lookingEverywhere (client : DiscoveryClient) (everywhere : Bool) : DiscoveryClient :=
  { client with settings := { client.settings with allNamespaces := everywhere } }

/-- What a client answers for a name. -/
def resolve (client : DiscoveryClient) (catalog : Catalog) (name : String) :
    Except Failure (List ServiceInstance) :=
  ((getInstances client Catalog.reader (.text name)).runOn (.start catalog)).1

/-- In a namespace of its own, endpoints have the same instances whoever looks. -/
theorem endpointsInstances_within (client : DiscoveryClient) (catalog : Catalog)
    (own inNamespace name : String) (first second : Bool) {endpoints : Datum}
    (nonempty : inNamespace ≠ "") (h : fieldOf endpoints "namespace" = .text inNamespace) :
    endpointsInstances (client.lookingEverywhere first) catalog name endpoints =
      endpointsInstances (client.lookingEverywhere second) (catalog.within own) name endpoints := by
  have hempty : inNamespace.isEmpty = false := by simpa using nonempty
  have hnamespace (ownNamespace : String) : namespaceOf ownNamespace endpoints = inNamespace := by
    simp [namespaceOf, h, hempty]
  have hservice : (catalog.within own).serviceIn inNamespace name =
      catalog.serviceIn inNamespace name := by
    simp [Catalog.serviceIn, Catalog.keyIn, Catalog.within, orElse, truthy, hempty]
  unfold endpointsInstances
  simp only [hnamespace, hservice]
  rfl

/-- What a client in one namespace answers is what its endpoints give. -/
theorem resolve_fields (client : DiscoveryClient) {catalog : Catalog} {name : String}
    (named : name ≠ "") (enabled : client.settings.enabled = true) (mapped : catalog.Mapped)
    (readable : catalog.failure = none) :
    (resolve client catalog name).map (List.map ServiceInstance.fields) =
      (catalog.endpointsNamed client.settings.allNamespaces name).flatMapM
        (endpointsInstances client catalog name) := by
  obtain ⟨r, hrun, hfields⟩ := getInstances_runsTo client mapped readable enabled named
  rw [← hfields]
  exact congrArg _ (hrun.result [] [])

theorem resolve_within (client : DiscoveryClient) {catalog : Catalog} {name : String}
    (named : name ≠ "") (enabled : client.settings.enabled = true) (mapped : catalog.Mapped)
    (keyed : catalog.Keyed) (readable : catalog.failure = none) {entry : CatalogEntry}
    (hmem : entry ∈ catalog.endpoints) (hname : entry.1.name.same (.text name) = true) :
    (resolve (client.lookingEverywhere false)
        (catalog.within ((textField entry.2 "namespace").getD "")) name).map
          (List.map ServiceInstance.fields) =
      endpointsInstances (client.lookingEverywhere true) catalog name entry.2 := by
  obtain ⟨inNamespace, stored, hnonempty, hkey, hnamespace, -⟩ := keyed.own entry hmem
  have hstored : stored = name := by
    rw [hkey] at hname
    simpa using hname
  subst hstored
  have hown : (textField entry.2 "namespace").getD "" = inNamespace := by
    simp [textField, hnamespace, text?]
  have hmapped : (catalog.within inNamespace).Mapped := ⟨mapped.endpoints, mapped.services⟩
  have hempty : inNamespace.isEmpty = false := by simpa using hnonempty
  have hfound : (catalog.within inNamespace).endpointsNamed false stored = [entry.2] := by
    have hfind := keyed.find hmem hkey
    simp [Catalog.endpointsNamed, Catalog.keyIn, Catalog.within, orElse, truthy, hempty, hfind]
  rw [hown, resolve_fields (client.lookingEverywhere false) named enabled hmapped readable,
    endpointsInstances_within client catalog inNamespace inNamespace stored true false hnonempty
      hnamespace]
  change ((catalog.within inNamespace).endpointsNamed false stored).flatMapM _ = _
  rw [hfound, List.flatMapM_cons, List.flatMapM_nil]
  cases endpointsInstances (client.lookingEverywhere false) (catalog.within inNamespace) stored
    entry.2 <;> simp [bind, Except.bind, pure, Except.pure]

/-- Looking into all namespaces answers what clients in the single namespaces answer, one for
every stored object with the name, in the order of the catalog. It fails exactly when one of them
fails, and then with the failure of the first. The own namespace of the client plays no part. -/
theorem everywhere_eq_namespaces (client : DiscoveryClient) (catalog : Catalog) (name : String)
    (named : name ≠ "") (enabled : client.settings.enabled = true) (mapped : catalog.Mapped)
    (keyed : catalog.Keyed) (readable : catalog.failure = none) :
    let everywhere := resolve (client.lookingEverywhere true) catalog name
    let stored := catalog.endpoints.filter fun entry => entry.1.name.same (.text name)
    let single (entry : CatalogEntry) := resolve (client.lookingEverywhere false)
      (catalog.within ((textField entry.2 "namespace").getD "")) name
    everywhere = stored.flatMapM single ∧
      (∀ failure, everywhere = .error failure ↔ ∃ before entry after,
        stored = before ++ entry :: after ∧ (∀ e ∈ before, ∃ found, single e = .ok found) ∧
          single entry = .error failure) ∧
      ∀ own, resolve (client.lookingEverywhere true) (catalog.within own) name = everywhere := by
  intro everywhere stored single
  have hmem : ∀ entry ∈ stored, entry ∈ catalog.endpoints ∧ entry.1.name.same (.text name) = true :=
    fun entry h => List.mem_filter.mp h
  have hall (own : String) :
      resolve (client.lookingEverywhere true) (catalog.within own) name =
        stored.flatMapM single := by
    have hmapped : (catalog.within own).Mapped := ⟨mapped.endpoints, mapped.services⟩
    refine eq_of_map_fields ?_
    rw [map_flatMapM,
      resolve_fields (client.lookingEverywhere true) named enabled hmapped readable]
    refine flatMapM_map_congr fun entry hentry => ?_
    obtain ⟨hstored, hname⟩ := hmem entry hentry
    obtain ⟨inNamespace, -, hnonempty, -, hnamespace, -⟩ := keyed.own entry hstored
    rw [resolve_within client named enabled mapped keyed readable hstored hname]
    exact (endpointsInstances_within client catalog own inNamespace name true true hnonempty
      hnamespace).symm
  have heverywhere : everywhere = stored.flatMapM single := hall catalog.ownNamespace
  refine ⟨heverywhere, ?_, fun own => (hall own).trans heverywhere.symm⟩
  intro failure
  rw [heverywhere]
  exact flatMapM_eq_error

/-- Endpoints from which a client that prefers another port cannot choose. -/
def ambiguous : CatalogEntry :=
  endpointsAt "web" "lab" [["10.0.2.1"]] [⟨some "http", 80, none⟩, ⟨some "grpc", 90, none⟩]

/-- The shop with a third namespace. -/
def market : Catalog := shop.putEndpoints ambiguous.1 ambiguous.2

theorem endpointsAt_ownKey (name : String) {inNamespace : String} (nonempty : inNamespace ≠ "")
    (subsets : List (List String)) (ports : List ResourcePort) :
    Catalog.OwnKey (endpointsAt name inNamespace subsets ports) :=
  ⟨inNamespace, name, nonempty, rfl, rfl, rfl⟩

theorem market_keyed : market.Keyed := by
  have hfirst := (Catalog.keyed_empty "default").putEndpoints
    (endpointsAt_ownKey "web" (by decide : "default" ≠ "") [["10.0.0.1", "10.0.0.2"], []]
      [⟨some "http", 80, none⟩, ⟨some "https", 443, none⟩])
  have hsecond := hfirst.putEndpoints
    (endpointsAt_ownKey "web" (by decide : "edge" ≠ "") [["10.0.1.1"]] [⟨none, 8080, none⟩])
  have hthird := hsecond.putEndpoints (endpointsAt_ownKey "web" (by decide : "lab" ≠ "")
    [["10.0.2.1"]] [⟨some "http", 80, none⟩, ⟨some "grpc", 90, none⟩])
  exact ⟨hthird.own, hthird.distinct⟩

theorem market_mapped : market.Mapped where
  endpoints := by
    intro entry hentry
    obtain hold | ⟨hobject, -⟩ := Catalog.mem_store hentry
    · exact shop_mapped.endpoints entry hold
    · rw [hobject]
      exact Endpoints.mapped_endpoints _
  services := shop_mapped.services

theorem market_fails :
    "web" ≠ "" ∧ shopper.settings.enabled = true ∧ market.Mapped ∧ market.Keyed ∧
      market.failure = none ∧
      resolve (shopper.lookingEverywhere true) market "web" =
        .error (noSuchPort "HTTPS" [.text "http", .text "grpc"]) := by
  refine ⟨by decide, rfl, market_mapped, market_keyed, rfl, ?_⟩
  have h := everywhere_eq_namespaces shopper market "web" (by decide) rfl market_mapped
    market_keyed rfl
  refine (h.2.1 _).mpr ⟨shop.endpoints, ambiguous, [], rfl, ?_, rfl⟩
  intro entry hentry
  simp only [shop, List.mem_cons, List.not_mem_nil, or_false] at hentry
  obtain rfl | rfl := hentry <;> exact ⟨_, rfl⟩

end DiscoveryClient

end ClusterDiscovery
