import ClusterDiscovery.Proofs.PodNames

/-! # Heartbeats are the changes

A watch keeps what its last successful poll observed, and publishes an observation exactly when
it differs from that. Over a run of polls the published events are therefore the observations
without those that repeat their predecessor, and failed polls leave no mark besides the log.
-/

namespace ClusterDiscovery

open Datum

/-! ## Events from names -/

theorem Check.each_text (i : Nat) (xs : List String) :
    Check.each Check.text i (xs.map .text) = .accepted xs := by
  induction xs generalizing i with
  | nil => rfl
  | cons x xs ih =>
      simp only [List.map_cons, Check.each, ih (i + 1)]
      rfl

theorem Heartbeat.ofFields_texts (xs : List String) :
    Heartbeat.ofFields [(.text "pod_names", .list (xs.map .text))] = .accepted ⟨xs⟩ := by
  have hfield : named? [(.text "pod_names", .list (xs.map .text))] "pod_names" =
      some (.list (xs.map .text)) := by
    simp [named?, lookup?]
  simp only [Heartbeat.ofFields, optionalField, hfield, Check.list, Check.each_text]
  rfl

namespace CatalogWatch

/-! ## Runs of polls -/

def pollReports (listener : Option Listener) :
    List (Except Failure (List Datum)) → CatalogWatch → List PollReport
  | [], _ => []
  | observed :: rest, watch =>
    let first := poll listener observed watch
    first :: pollReports listener rest first.watch

/-- What the successful ones among polls saw. -/
def listings (polls : List (Except Failure (List Datum))) : List (List Datum) :=
  polls.filterMap Except.toOption

/-- The members of a sequence that differ from their predecessor. -/
def changes {α : Type} [DecidableEq α] (previous : Option α) : List α → List α
  | [] => []
  | x :: rest => if previous = some x then changes (some x) rest else x :: changes (some x) rest

/-- The listener never fails, or there is none. -/
def NeverRefused (listener : Option Listener) : Prop :=
  ∀ l, listener = some l → ∀ calls, l.failsAfter calls = false

/-- The state of a watch is the last observation, if there was one. -/
def Holds (watch : CatalogWatch) (last : Option (List String)) : Prop :=
  watch.state = last.map fun names => names.map .text

theorem pollReports_getElem? (listener : Option Listener)
    (polls : List (Except Failure (List Datum))) (watch : CatalogWatch) (i : Nat) :
    (pollReports listener polls watch)[i]? = polls[i]?.map fun observed =>
      poll listener observed (pollAll listener (polls.take i) watch).watch := by
  induction polls generalizing watch i with
  | nil => simp [pollReports]
  | cons observed rest ih =>
      cases i with
      | zero => simp [pollReports, pollAll]
      | succ i => simpa [pollReports, pollAll] using ih (poll listener observed watch).watch i

theorem pollReports_take (listener : Option Listener)
    (polls : List (Except Failure (List Datum))) (watch : CatalogWatch) (i : Nat) :
    (pollReports listener polls watch).take i = pollReports listener (polls.take i) watch := by
  induction polls generalizing watch i with
  | nil => simp [pollReports]
  | cons observed rest ih =>
      cases i with
      | zero => simp [pollReports]
      | succ i => simp [pollReports, ih]

theorem changes_getLast? {α : Type} [DecidableEq α] (previous : Option α) (xs : List α) :
    (changes previous xs).getLast?.or previous = xs.getLast?.or previous := by
  induction xs generalizing previous with
  | nil => rfl
  | cons x rest ih =>
      have hrest := ih (some x)
      unfold changes
      split
      · next heq =>
          subst heq
          rw [hrest]
          cases h : rest.getLast? <;> simp [List.getLast?_cons, h]
      · rw [List.getLast?_cons, List.getLast?_cons]
        cases h : rest.getLast? <;> cases h' : (changes (some x) rest).getLast? <;>
          simp_all

/-! ## One poll -/

theorem Holds.isNews {watch : CatalogWatch} {last : Option (List String)}
    (h : watch.Holds last) (names : List String) :
    watch.isNews (names.map .text) = decide (last ≠ some names) := by
  unfold Holds at h
  unfold CatalogWatch.isNews
  cases last with
  | none => simp [h]
  | some previous =>
      rw [h]
      simp only [Option.map_some, sameAll_texts]
      by_cases heq : previous = names
      · simp [heq]
      · simp [heq, Ne.symm heq]

/-- A poll without a listing leaves the watch as it was and tells nobody. -/
theorem poll_error (listener : Option Listener) (f : Failure) (watch : CatalogWatch) :
    (poll listener (.error f) watch).watch = watch ∧
      (poll listener (.error f) watch).event = none ∧
      (poll listener (.error f) watch).delivery = none := by
  cases f <;> exact ⟨rfl, rfl, rfl⟩

theorem poll_failed (listener : Option Listener) {f : Failure} (hf : f ≠ .interrupted)
    (watch : CatalogWatch) :
    poll listener (.error f) watch = { PollReport.silent watch with log := [pollFailed] } := by
  cases f <;> first
    | rfl
    | exact absurd rfl hf

/-- A successful poll takes over its observation. It publishes unless the watch holds the same
one, and every event that it publishes is accepted. -/
theorem poll_ok {listener : Option Listener} (quiet : NeverRefused listener)
    {endpoints : List Datum} (mapped : ∀ e ∈ endpoints, WatchedEndpoints e)
    {watch : CatalogWatch} {last : Option (List String)} (h : watch.Holds last) :
    (poll listener (.ok endpoints) watch).watch.Holds (some (observation endpoints)) ∧
      (poll listener (.ok endpoints) watch).event =
        (if last = some (observation endpoints) then none else some ⟨observation endpoints⟩) ∧
      (listener.isSome → (poll listener (.ok endpoints) watch).delivery =
        (poll listener (.ok endpoints) watch).event.map .accepted) := by
  unfold poll
  simp only [observedNames_eq mapped, h.isNews]
  by_cases hsame : last = some (observation endpoints)
  · simp [hsame, Holds, PollReport.silent]
  · simp only [hsame, ne_eq, not_false_eq_true, decide_true, Bool.not_true, Bool.false_eq_true,
      if_false, Heartbeat.ofFields_texts, Checked.toExcept]
    cases listener with
    | none => simp [publish, Holds]
    | some l => simp [publish, Holds, quiet l rfl]

/-! ## A whole run -/

/-- The published events are the changes, and the watch holds the last observation. -/
theorem pollReports_events {listener : Option Listener} (quiet : NeverRefused listener)
    {polls : List (Except Failure (List Datum))}
    (mapped : ∀ endpoints, .ok endpoints ∈ polls → ∀ e ∈ endpoints, WatchedEndpoints e)
    {watch : CatalogWatch} {last : Option (List String)} (h : watch.Holds last) :
    (pollReports listener polls watch).filterMap (·.event) =
        (changes last ((listings polls).map observation)).map Heartbeat.mk ∧
      (pollAll listener polls watch).watch.Holds
        (((listings polls).map observation).getLast?.or last) := by
  induction polls generalizing watch last with
  | nil => exact ⟨rfl, h⟩
  | cons observed rest ih =>
      have hrest : ∀ endpoints, .ok endpoints ∈ rest → ∀ e ∈ endpoints, WatchedEndpoints e :=
        fun endpoints hmem => mapped endpoints (List.mem_cons_of_mem observed hmem)
      cases observed with
      | error f =>
          obtain ⟨hwatch, hevent, -⟩ := poll_error listener f watch
          simp only [pollReports, pollAll, hwatch, hevent, listings, List.filterMap_cons,
            Except.toOption]
          exact ih hrest h
      | ok endpoints =>
          have hstep := poll_ok quiet (mapped endpoints List.mem_cons_self) h
          obtain ⟨hevents, hholds⟩ := ih hrest hstep.1
          constructor
          · simp only [pollReports, List.filterMap_cons, hstep.2.1, hevents, listings,
              Except.toOption, List.map_cons, changes]
            split <;> split <;> simp_all
          · simp only [pollAll, listings, Except.toOption, List.filterMap_cons, List.map_cons,
              List.getLast?_cons] at hholds ⊢
            cases hlast : ((rest.filterMap Except.toOption).map observation).getLast? <;>
              simpa [hlast] using hholds

/-- A listener is told of every published event and of nothing else. -/
theorem pollAll_deliveries {listener : Option Listener} (quiet : NeverRefused listener)
    (present : listener.isSome) {polls : List (Except Failure (List Datum))}
    (mapped : ∀ endpoints, .ok endpoints ∈ polls → ∀ e ∈ endpoints, WatchedEndpoints e)
    {watch : CatalogWatch} {last : Option (List String)} (h : watch.Holds last) :
    (pollAll listener polls watch).deliveries =
      ((pollReports listener polls watch).filterMap (·.event)).map .accepted := by
  induction polls generalizing watch last with
  | nil => rfl
  | cons observed rest ih =>
      have hrest : ∀ endpoints, .ok endpoints ∈ rest → ∀ e ∈ endpoints, WatchedEndpoints e :=
        fun endpoints hmem => mapped endpoints (List.mem_cons_of_mem observed hmem)
      cases observed with
      | error f =>
          obtain ⟨hwatch, hevent, hdelivery⟩ := poll_error listener f watch
          simp only [pollReports, pollAll, hwatch, hevent, hdelivery, List.filterMap_cons]
          exact ih hrest h
      | ok endpoints =>
          obtain ⟨hholds, -, hdelivery⟩ := poll_ok quiet (mapped endpoints List.mem_cons_self) h
          simp only [pollReports, pollAll, List.filterMap_cons, hdelivery present,
            ih hrest hholds]
          cases (poll listener (.ok endpoints) watch).event <;> rfl

/-- Before its `i`-th poll a watch holds what the last successful one of the earlier polls
observed. -/
theorem holds_before {listener : Option Listener} (quiet : NeverRefused listener)
    {polls : List (Except Failure (List Datum))}
    (mapped : ∀ endpoints, .ok endpoints ∈ polls → ∀ e ∈ endpoints, WatchedEndpoints e)
    (i : Nat) :
    (pollAll listener (polls.take i) initial).watch.Holds
      ((listings (polls.take i)).getLast?.map observation) := by
  have hstart : initial.Holds none := rfl
  have hmapped : ∀ endpoints, .ok endpoints ∈ polls.take i → ∀ e ∈ endpoints, WatchedEndpoints e :=
    fun endpoints hmem => mapped endpoints (List.mem_of_mem_take hmem)
  have h := (pollReports_events quiet hmapped hstart).2
  rwa [Option.or_none, List.getLast?_map] at h

/-- The last event that is published up to a successful poll is that poll's observation. -/
theorem last_published {listener : Option Listener} (quiet : NeverRefused listener)
    {polls : List (Except Failure (List Datum))}
    (mapped : ∀ endpoints, .ok endpoints ∈ polls → ∀ e ∈ endpoints, WatchedEndpoints e)
    {i : Nat} {endpoints : List Datum} (hi : polls[i]? = some (.ok endpoints)) :
    ((pollReports listener (polls.take (i + 1)) initial).filterMap (·.event)).getLast? =
      some ⟨observation endpoints⟩ := by
  have hstart : initial.Holds none := rfl
  have hmapped : ∀ endpoints, .ok endpoints ∈ polls.take (i + 1) →
      ∀ e ∈ endpoints, WatchedEndpoints e :=
    fun endpoints hmem => mapped endpoints (List.mem_of_mem_take hmem)
  have hlistings : listings (polls.take (i + 1)) = listings (polls.take i) ++ [endpoints] := by
    simp [listings, List.take_add_one, hi, Except.toOption]
  have hlast := changes_getLast? none ((listings (polls.take (i + 1))).map observation)
  rw [Option.or_none, Option.or_none, hlistings, List.map_append, List.map_singleton,
    List.getLast?_concat] at hlast
  rw [(pollReports_events quiet hmapped hstart).1, hlistings, List.getLast?_map, List.map_append,
    List.map_singleton, hlast]
  rfl

/-- Heartbeats are the changes of the pods. The published events are the successful observations
without those that equal their predecessor, and the listener is told of exactly these. A failed
poll leaves one error in the log and nothing else, and an interruption by the user is passed on.
After a successful poll the state is the last published list, and the poll itself published
exactly when the pods, counted with repetitions, differ from those of the last successful poll
before it. -/
theorem heartbeats_are_changes (listener : Option Listener) (quiet : NeverRefused listener)
    (polls : List (Except Failure (List Datum)))
    (mapped : ∀ endpoints, .ok endpoints ∈ polls → ∀ e ∈ endpoints, WatchedEndpoints e) :
    let reports := pollReports listener polls initial
    let published := reports.filterMap (·.event)
    published.map (·.podNames) = changes none ((listings polls).map observation) ∧
      (listener.isSome →
        (pollAll listener polls initial).deliveries = published.map .accepted) ∧
      ∀ i observed, polls[i]? = some observed →
        let before := (pollAll listener (polls.take i) initial).watch
        let report := poll listener observed before
        reports[i]? = some report ∧
          match observed with
          | .error f =>
            report.event = none ∧ report.delivery = none ∧ report.watch.state = before.state ∧
              (f ≠ .interrupted → report.log = [pollFailed]) ∧
              (f = .interrupted → report.log = [] ∧ report.isInterrupted = true)
          | .ok endpoints =>
            report.watch.state = some ((observation endpoints).map .text) ∧
              ((reports.take (i + 1)).filterMap (·.event)).getLast? =
                some ⟨observation endpoints⟩ ∧
              (report.event.isSome ↔ ∀ last, (listings (polls.take i)).getLast? = some last →
                ¬ (referredPods endpoints).Perm (referredPods last)) := by
  have hstart : initial.Holds none := rfl
  refine ⟨?_, fun present => pollAll_deliveries quiet present mapped hstart, ?_⟩
  · rw [(pollReports_events quiet mapped hstart).1, List.map_map]
    exact List.map_id _
  intro i observed hi
  refine ⟨by rw [pollReports_getElem?, hi]; rfl, ?_⟩
  cases observed with
  | error f =>
      obtain ⟨hwatch, hevent, hdelivery⟩ :=
        poll_error listener f (pollAll listener (polls.take i) initial).watch
      refine ⟨hevent, hdelivery, congrArg CatalogWatch.state hwatch, fun hf => ?_, ?_⟩
      · rw [poll_failed listener hf]
      · rintro rfl
        exact ⟨rfl, rfl⟩
  | ok endpoints =>
      have hmem : .ok endpoints ∈ polls := List.mem_of_getElem? hi
      have hbefore := holds_before quiet mapped i
      obtain ⟨hholds, hevent, -⟩ := poll_ok quiet (mapped endpoints hmem) hbefore
      refine ⟨hholds, ?_, ?_⟩
      · rw [pollReports_take]
        exact last_published quiet mapped hi
      · rw [hevent]
        cases hlast : (listings (polls.take i)).getLast? with
        | none => simp
        | some last =>
            by_cases hsame : (referredPods endpoints).Perm (referredPods last)
            · have heq : observation last = observation endpoints :=
                observation_eq_iff.mpr hsame.symm
              simp [heq, hsame]
            · have hne : observation last ≠ observation endpoints :=
                fun heq => hsame (observation_eq_iff.mp heq).symm
              simp [hne, hsame]

/-- A listing of one object whose only subset has an address for every pod. -/
def listingOf (pods : List String) : List Datum :=
  let addresses := pods.map fun pod =>
    (⟨"10.0.0.1", none, none, some ⟨none, some pod, none, none⟩⟩ : EndpointAddress)
  [(⟨none, some [⟨some addresses, none, none⟩]⟩ : Endpoints).mapped]

theorem listingOf_watched (pods : List String) : ∀ e ∈ listingOf pods, WatchedEndpoints e := by
  intro e he
  rw [List.mem_singleton.mp he]
  exact Endpoints.mapped_watched _

/-- Nothing at first, then a failure, two pods in either order, and one of them alone. -/
def varyingPolls : List (Except Failure (List Datum)) :=
  [.ok [], .error (.external "OSError" "down"), .ok (listingOf ["b", "a"]),
    .ok (listingOf ["a", "b"]), .ok (listingOf ["a"])]

theorem heartbeats_of_varyingPolls :
    NeverRefused (some {}) ∧
      (∀ endpoints, .ok endpoints ∈ varyingPolls → ∀ e ∈ endpoints, WatchedEndpoints e) ∧
      ((pollReports (some {}) varyingPolls initial).filterMap (·.event)).map (·.podNames) =
        [[], ["a", "b"], ["a"]] := by
  have quiet : NeverRefused (some {}) := by
    intro l hl calls
    cases hl
    rfl
  have mapped : ∀ endpoints, .ok endpoints ∈ varyingPolls →
      ∀ e ∈ endpoints, WatchedEndpoints e := by
    intro endpoints hmem
    simp only [varyingPolls, List.mem_cons, Except.ok.injEq, reduceCtorEq, false_or,
      List.not_mem_nil, or_false] at hmem
    obtain rfl | rfl | rfl | rfl := hmem
    · simp
    · exact listingOf_watched _
    · exact listingOf_watched _
    · exact listingOf_watched _
  have hnone : observation [] = [] := observation_of_sorted .nil
  have hone : observation (listingOf ["a"]) = ["a"] := observation_of_sorted (by decide)
  have htwo : observation (listingOf ["a", "b"]) = ["a", "b"] := observation_of_sorted (by decide)
  have hperm : (referredPods (listingOf ["b", "a"])).Perm (referredPods (listingOf ["a", "b"])) :=
    .swap "a" "b" []
  have hswapped : observation (listingOf ["b", "a"]) = ["a", "b"] :=
    (observation_eq_iff.mpr hperm).trans htwo
  refine ⟨quiet, mapped,
    (heartbeats_are_changes (some {}) quiet varyingPolls mapped).1.trans ?_⟩
  change changes none [observation [], observation (listingOf ["b", "a"]),
    observation (listingOf ["a", "b"]), observation (listingOf ["a"])] = _
  rw [hnone, hone, htwo, hswapped]
  rfl

end CatalogWatch

end ClusterDiscovery
