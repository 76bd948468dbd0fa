import ClusterDiscovery.Discovery.Watch
import ClusterDiscovery.Proofs.Reading

/-! # The pods behind endpoints

A watch looks at the names of the pods that addresses refer to. The names are collected through
three levels of lists, any of which may be missing, and then sorted. Sorting makes the result a
canonical form: two listings give the same sorted names exactly when they hold every name equally
often.
-/

namespace ClusterDiscovery

open Datum Resource

/-! ## Endpoints as a watch reads them -/

/-- An address with a reference to a pod or without one. The name may be missing. -/
def NamesPod (address : Datum) : Prop :=
  address.IsMapping ∧ (fieldOf address "target_ref" = .null ∨
    (fieldOf address "target_ref").IsMapping ∧
      (fieldOf (fieldOf address "target_ref") "name").TextOrNull)

def NamesPods (subset : Datum) : Prop :=
  subset.IsMapping ∧ (fieldOf subset "addresses").ListOf NamesPod

/-- Mapped endpoints, as far as a watch reads them. -/
def WatchedEndpoints (endpoints : Datum) : Prop :=
  endpoints.IsMapping ∧ (fieldOf endpoints "subsets").ListOf NamesPods

theorem EndpointAddress.mapped_namesPod (address : EndpointAddress) : NamesPod address.mapped := by
  refine ⟨.record _, ?_⟩
  cases href : address.targetRef with
  | none => exact .inl (by simp [EndpointAddress.mapped, fieldOf_record, href])
  | some ref =>
      refine .inr ?_
      simp only [EndpointAddress.mapped, fieldOf_record, href]
      exact ⟨.record _, by simpa [TargetRef.mapped, fieldOf_record] using .textOrNull ref.name⟩

theorem EndpointSubset.mapped_namesPods (subset : EndpointSubset) : NamesPods subset.mapped := by
  refine ⟨.record _, ?_⟩
  simpa [EndpointSubset.mapped, fieldOf_record] using
    ListOf.map EndpointAddress.mapped_namesPod (subset.addresses.getD [])

/-- Whatever the cluster serves can be watched once it is mapped. -/
theorem Endpoints.mapped_watched (endpoints : Endpoints) : WatchedEndpoints endpoints.mapped := by
  refine ⟨.record _, ?_⟩
  cases hsubsets : endpoints.subsets with
  | none => exact .inl (by simp [Endpoints.mapped, fieldOf_record, hsubsets])
  | some subsets =>
      simpa [Endpoints.mapped, fieldOf_record, hsubsets] using
        ListOf.map EndpointSubset.mapped_namesPods subsets

/-! ## The names -/

/-- The name of the pod behind an address. An empty name counts as none. -/
def referredPod (address : Datum) : Option String :=
  match fieldOf (fieldOf address "target_ref") "name" with
  | .text s => if s.isEmpty then none else some s
  | _ => none

/-- All pods that endpoints refer to, with repetitions. -/
def referredPods (endpoints : List Datum) : List String :=
  endpoints.flatMap fun e => (fieldOf e "subsets").items.flatMap fun s =>
    (fieldOf s "addresses").items.filterMap referredPod

/-- What a poll observes: the names of all pods in ascending order. -/
def observation (endpoints : List Datum) : List String :=
  (referredPods endpoints).mergeSort (· ≤ ·)

theorem podName?_eq {address : Datum} (h : NamesPod address) :
    podName? address = .ok ((referredPod address).map .text) := by
  obtain ⟨hmap, href⟩ := h
  unfold podName? referredPod
  rw [hmap.optional]
  cases htruthy : (fieldOf address "target_ref").truthy with
  | false =>
      rw [fieldOf_of_not_truthy htruthy]
      simp [bind, Except.bind, htruthy, pure, Except.pure]
  | true =>
      obtain hnull | ⟨hfields, hname⟩ := href
      · rw [hnull] at htruthy
        cases htruthy
      simp only [bind, Except.bind, htruthy, hfields.optional]
      obtain hname | ⟨s, hname⟩ := hname
      · rw [hname]
        rfl
      · rw [hname]
        cases hs : s.isEmpty <;> simp [truthy, hs, pure, Except.pure]

theorem listed_eq {shape : Datum → Prop} {d : Datum} {name : String} (hmap : d.IsMapping)
    (h : (fieldOf d name).ListOf shape) : listed d name = .ok (fieldOf d name).items := by
  unfold listed
  rw [hmap.optional]
  exact h.elements_orElse

theorem subsetPodNames_eq {subset : Datum} (h : NamesPods subset) :
    subsetPodNames subset =
      .ok (((fieldOf subset "addresses").items.filterMap referredPod).map .text) := by
  obtain ⟨hmap, haddresses⟩ := h
  have hnames := mapM_eq_ok fun a (ha : a ∈ (fieldOf subset "addresses").items) =>
    podName?_eq (haddresses.mem ha)
  unfold subsetPodNames
  rw [listed_eq hmap haddresses]
  simp only [bind, Except.bind, hnames, pure, Except.pure, List.filterMap_map, List.map_filterMap]
  rfl

theorem endpointPodNames_eq {endpoints : List Datum} (h : ∀ e ∈ endpoints, WatchedEndpoints e) :
    endpointPodNames endpoints = .ok ((referredPods endpoints).map .text) := by
  have hone : ∀ e ∈ endpoints,
      (do return (← (← listed e "subsets").mapM subsetPodNames).flatten :
        Except Fault (List Datum)) =
      .ok (((fieldOf e "subsets").items.flatMap fun s =>
        (fieldOf s "addresses").items.filterMap referredPod).map .text) := by
    intro e he
    obtain ⟨hmap, hsubsets⟩ := h e he
    have hnames := mapM_eq_ok fun s (hs : s ∈ (fieldOf e "subsets").items) =>
      subsetPodNames_eq (hsubsets.mem hs)
    rw [listed_eq hmap hsubsets]
    simp only [bind, Except.bind, hnames, pure, Except.pure, List.flatMap_def, List.map_flatten,
      List.map_map, Function.comp_def]
  unfold endpointPodNames
  rw [mapM_eq_ok hone]
  simp only [bind, Except.bind, pure, Except.pure, referredPods, List.flatMap_def,
    List.map_flatten, List.map_map, Function.comp_def]

theorem texts?_map_text (xs : List String) : texts? (xs.map .text) = some xs := by
  induction xs with
  | nil => rfl
  | cons x xs ih => simp [texts?, text?, ih]

theorem observedNames_eq {endpoints : List Datum} (h : ∀ e ∈ endpoints, WatchedEndpoints e) :
    observedNames endpoints = .ok ((observation endpoints).map .text) := by
  unfold observedNames
  rw [endpointPodNames_eq h]
  simp only [bind, Except.bind, sortedNames, texts?_map_text, observation]

/-! ## Sorting is canonical -/

theorem observation_eq_iff {first second : List Datum} :
    observation first = observation second ↔ (referredPods first).Perm (referredPods second) := by
  have hsorted (endpoints : List Datum) : (observation endpoints).Pairwise (· ≤ ·) := by
    refine (List.pairwise_mergeSort ?_ ?_ _).imp of_decide_eq_true
    · intro a b c hab hbc
      exact decide_eq_true (String.le_trans (of_decide_eq_true hab) (of_decide_eq_true hbc))
    · intro a b
      simpa using String.le_total a b
  have hperm (endpoints : List Datum) : (observation endpoints).Perm (referredPods endpoints) :=
    List.mergeSort_perm _ _
  constructor
  · intro h
    exact (hperm first).symm.trans (h ▸ hperm second)
  · intro h
    refine List.Perm.eq_of_pairwise ?_ (hsorted first) (hsorted second)
      ((hperm first).trans (h.trans (hperm second).symm))
    intro a b _ _
    exact String.le_antisymm

theorem observation_of_sorted {endpoints : List Datum}
    (h : (referredPods endpoints).Pairwise (· ≤ ·)) :
    observation endpoints = referredPods endpoints :=
  List.mergeSort_of_pairwise (h.imp decide_eq_true)

end ClusterDiscovery
