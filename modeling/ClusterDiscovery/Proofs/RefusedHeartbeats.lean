import ClusterDiscovery.Proofs.Heartbeats

/-! # Heartbeats that a listener refuses

A watch takes over what it observed before it tells the listener. A poll that cannot observe
anything therefore leaves the watch as it was, but a change that the listener refuses is not
offered again: what a watch holds does not depend on its listener at all.
-/

namespace ClusterDiscovery

/-- A poll ends in an error: it publishes nothing, and the error is the last thing in the log. -/
def PollReport.Failed (report : PollReport) : Prop :=
  report.event = none ∧ report.log.getLast? = some CatalogWatch.pollFailed

namespace CatalogWatch

open Datum

/-- How a listener takes the changes that it is told of, when it was called that often before. -/
def responses (listener : Listener) : Nat → List (List String) → List Delivery
  | _, [] => []
  | calls, names :: rest =>
    (if listener.failsAfter calls then .refused else .accepted ⟨names⟩) ::
      responses listener (calls + 1) rest

/-! ## One poll -/

/-- A listing that repeats the last one does nothing. Any other is taken over and published. -/
theorem poll_listing (listener : Option Listener) {endpoints : List Datum}
    (mapped : ∀ e ∈ endpoints, WatchedEndpoints e) {watch : CatalogWatch}
    {last : Option (List String)} (h : watch.Holds last) :
    poll listener (.ok endpoints) watch =
      if last = some (observation endpoints) then .silent watch
      else publish listener ⟨observation endpoints⟩
        { watch with state := some ((observation endpoints).map .text) } := by
  unfold poll
  simp only [observedNames_eq mapped, h.isNews]
  by_cases hsame : last = some (observation endpoints)
  · have hstate : watch.state = some ((observation endpoints).map .text) := by
      rw [h, hsame]
      rfl
    simp [hsame, ← hstate]
  · simp [hsame, Heartbeat.ofFields_texts, Checked.toExcept]

/-- Whatever the listener does, a watch holds what it observed last. -/
theorem publish_state (listener : Option Listener) (event : Heartbeat) (watch : CatalogWatch) :
    (publish listener event watch).watch.state = watch.state := by
  unfold publish
  cases listener with
  | none => rfl
  | some l => cases hfails : l.failsAfter watch.calls <;> simp [hfails]

theorem publish_failed {listener : Option Listener} {event : Heartbeat} {watch : CatalogWatch}
    (h : (publish listener event watch).Failed) :
    (publish listener event watch).delivery = some .refused := by
  unfold publish at h ⊢
  cases listener with
  | none => cases h.1
  | some l =>
      cases hfails : l.failsAfter watch.calls with
      | true => simp [hfails]
      | false => simp [hfails, PollReport.Failed] at h

theorem holds_after_listing (listener : Option Listener) {endpoints : List Datum}
    (mapped : ∀ e ∈ endpoints, WatchedEndpoints e) {watch : CatalogWatch}
    {last : Option (List String)} (h : watch.Holds last) :
    (poll listener (.ok endpoints) watch).watch.Holds (some (observation endpoints)) := by
  rw [poll_listing listener mapped h]
  split
  · next hsame => exact hsame ▸ h
  · exact publish_state _ _ _

/-- A poll of a listing that the watch holds already does nothing. -/
theorem poll_again (listener : Option Listener) {endpoints : List Datum}
    (mapped : ∀ e ∈ endpoints, WatchedEndpoints e) {watch : CatalogWatch}
    (h : watch.Holds (some (observation endpoints))) :
    poll listener (.ok endpoints) watch = .silent watch := by
  rw [poll_listing listener mapped h, if_pos rfl]

/-- A poll of a listing that ends in an error was refused by the listener. The watch has changed
nevertheless. -/
theorem refused_of_failed {listener : Option Listener} {endpoints : List Datum}
    (mapped : ∀ e ∈ endpoints, WatchedEndpoints e) {watch : CatalogWatch}
    {last : Option (List String)} (h : watch.Holds last)
    (failed : (poll listener (.ok endpoints) watch).Failed) :
    (poll listener (.ok endpoints) watch).delivery = some .refused ∧
      (poll listener (.ok endpoints) watch).watch.state ≠ watch.state := by
  have hafter := holds_after_listing listener mapped h
  rw [poll_listing listener mapped h] at failed hafter ⊢
  split at failed
  · cases failed.2
  · next hnew =>
      rw [if_neg hnew] at hafter ⊢
      refine ⟨publish_failed failed, ?_⟩
      intro hstate
      rw [hafter, h] at hstate
      refine hnew ?_
      cases last with
      | none => cases hstate
      | some names =>
          have hnames : (observation endpoints).map Datum.text = names.map Datum.text :=
            Option.some.inj hstate
          exact congrArg some ((List.map_inj_right fun _ _ => Datum.text.inj).mp hnames).symm

/-! ## A whole run -/

/-- A run keeps its last observation, and its listener is told of every change exactly once, in
order. What the listener answers changes neither. -/
theorem pollAll_responses (listener : Option Listener)
    {polls : List (Except Failure (List Datum))}
    (mapped : ∀ endpoints, .ok endpoints ∈ polls → ∀ e ∈ endpoints, WatchedEndpoints e)
    {watch : CatalogWatch} {last : Option (List String)} (h : watch.Holds last) :
    let observations := (listings polls).map observation
    (pollAll listener polls watch).watch.Holds (observations.getLast?.or last) ∧
      ∀ l, listener = some l → (pollAll listener polls watch).deliveries =
        responses l watch.calls (changes last observations) := by
  induction polls generalizing watch last with
  | nil => exact ⟨h, fun _ _ => rfl⟩
  | cons observed rest ih =>
      have hrest : ∀ endpoints, .ok endpoints ∈ rest → ∀ e ∈ endpoints, WatchedEndpoints e :=
        fun endpoints hmem => mapped endpoints (List.mem_cons_of_mem observed hmem)
      cases observed with
      | error f =>
          obtain ⟨hwatch, -, hdelivery⟩ := poll_error listener f watch
          simp only [pollAll, hwatch, hdelivery]
          exact ih hrest h
      | ok endpoints =>
          have hmapped := mapped endpoints List.mem_cons_self
          obtain ⟨hholds, hdeliveries⟩ := ih hrest (holds_after_listing listener hmapped h)
          simp only [pollAll, listings, List.filterMap_cons, Except.toOption, List.map_cons,
            List.getLast?_cons] at hholds hdeliveries ⊢
          constructor
          · cases hlast : ((rest.filterMap Except.toOption).map observation).getLast? <;>
              simpa [hlast] using hholds
          · intro l hl
            rw [hdeliveries l hl, poll_listing listener hmapped h]
            subst hl
            by_cases hsame : last = some (observation endpoints)
            · simp [hsame, changes, PollReport.silent]
            · simp only [hsame, if_false, changes, responses, publish]
              split <;> rfl

theorem responses_getLast? (l : Listener) (calls : Nat) {offers : List (List String)}
    {names : List String} (h : offers.getLast? = some names) :
    (responses l calls offers).getLast? = some .refused ∨
      (responses l calls offers).getLast? = some (.accepted ⟨names⟩) := by
  induction offers generalizing calls with
  | nil => cases h
  | cons first rest ih =>
      cases rest with
      | nil =>
          obtain rfl : first = names := by simpa using h
          cases hfails : l.failsAfter calls <;> simp [responses, hfails]
      | cons second rest =>
          rw [List.getLast?_cons_cons] at h
          exact ih (calls + 1) h

/-- No change is lost unless the listener refuses it. A poll that ends in an error keeps the state
exactly if the listener was not called, and then the whole watch is as it was before. Otherwise
the listener refused the change, and further polls that observe the same pods do nothing. After a
run that ended neither in an error nor in an interruption by the user, the last event that the
listener took lists the pods of the state, unless the last change was refused. -/
theorem changes_kept_unless_refused (listener : Option Listener)
    (polls : List (Except Failure (List Datum))) (observed : Except Failure (List Datum))
    (mapped : ∀ endpoints, .ok endpoints ∈ polls ++ [observed] →
      ∀ e ∈ endpoints, WatchedEndpoints e) :
    let before := (pollAll listener polls initial).watch
    let report := poll listener observed before
    let deliveries := (pollAll listener (polls ++ [observed]) initial).deliveries
    (report.Failed →
      (report.watch.state = before.state ↔ report.delivery = none) ∧
        (report.delivery = none → report.watch = before) ∧
        (report.delivery ≠ none → report.delivery = some .refused ∧
          ∃ endpoints, observed = .ok endpoints ∧
            ∀ again, (∀ e ∈ again, WatchedEndpoints e) →
              (referredPods again).Perm (referredPods endpoints) →
              poll listener (.ok again) report.watch = .silent report.watch)) ∧
      (¬ report.Failed → report.isInterrupted = false → listener.isSome →
        deliveries.getLast? ≠ some .refused →
        ∃ event, deliveries.getLast? = some (.accepted event) ∧
          report.watch.state = some (event.podNames.map .text)) := by
  intro before report deliveries
  have hstart : initial.Holds none := rfl
  have hearlier : ∀ endpoints, .ok endpoints ∈ polls → ∀ e ∈ endpoints, WatchedEndpoints e :=
    fun endpoints hmem => mapped endpoints (List.mem_append_left _ hmem)
  have hbefore := (pollAll_responses listener hearlier hstart).1
  cases observed with
  | error f =>
      obtain ⟨hwatch, hevent, hdelivery⟩ := poll_error listener f before
      refine ⟨fun _ => ⟨⟨fun _ => hdelivery, fun _ => congrArg state hwatch⟩, fun _ => hwatch,
        fun h => absurd hdelivery h⟩, fun hcompleted huninterrupted => ?_⟩
      have hf : f ≠ .interrupted := by
        rintro rfl
        cases huninterrupted
      have hreport : report = { PollReport.silent before with log := [pollFailed] } :=
        poll_failed listener hf before
      rw [hreport] at hcompleted
      exact absurd ⟨rfl, rfl⟩ hcompleted
  | ok endpoints =>
      have hwatched : ∀ e ∈ endpoints, WatchedEndpoints e := mapped endpoints (by simp)
      have hafter := holds_after_listing listener hwatched hbefore
      constructor
      · intro hfailed
        obtain ⟨hrefused, hchanged⟩ := refused_of_failed hwatched hbefore hfailed
        have hdelivered : report.delivery ≠ none := by
          rw [show report.delivery = some .refused from hrefused]
          exact Option.some_ne_none _
        refine ⟨⟨fun h => absurd h hchanged, fun h => absurd h hdelivered⟩,
          fun h => absurd h hdelivered, fun _ => ⟨hrefused, endpoints, rfl, ?_⟩⟩
        intro again hagain hperm
        refine poll_again listener hagain ?_
        rw [observation_eq_iff.mpr hperm]
        exact hafter
      · intro _ _ hpresent hlast
        obtain ⟨l, hl⟩ := Option.isSome_iff_exists.mp hpresent
        have hlistings : listings (polls ++ [.ok endpoints]) = listings polls ++ [endpoints] := by
          simp [listings, Except.toOption]
        have hdeliveries : deliveries = responses l 0
            (changes none ((listings (polls ++ [.ok endpoints])).map observation)) :=
          (pollAll_responses listener mapped hstart).2 l hl
        have hoffered : (changes none ((listings (polls ++ [.ok endpoints])).map
            observation)).getLast? = some (observation endpoints) := by
          have h := changes_getLast? none ((listings (polls ++ [.ok endpoints])).map observation)
          simpa [hlistings] using h
        obtain hrefused | haccepted := responses_getLast? l 0 hoffered
        · exact absurd (hdeliveries ▸ hrefused) hlast
        · exact ⟨⟨observation endpoints⟩, hdeliveries ▸ haccepted, hafter⟩

/-- A listener that fails when it is called for the first time. -/
def failingAtFirst : Listener := { failsAfter := fun calls => calls == 0 }

/-- The first change is refused. The watch takes it over all the same, and it is never offered
again. -/
theorem first_change_refused :
    (∀ endpoints, (.ok endpoints : Except Failure (List Datum)) ∈ [] ++ [.ok (listingOf ["a"])] →
      ∀ e ∈ endpoints, WatchedEndpoints e) ∧
      let report := poll (some failingAtFirst) (.ok (listingOf ["a"])) initial
      report.Failed ∧ report.watch.state = some [.text "a"] ∧
        poll (some failingAtFirst) (.ok (listingOf ["a"])) report.watch =
          .silent report.watch := by
  have mapped : ∀ endpoints,
      (.ok endpoints : Except Failure (List Datum)) ∈ [] ++ [.ok (listingOf ["a"])] →
        ∀ e ∈ endpoints, WatchedEndpoints e := by
    intro endpoints hmem
    obtain rfl : endpoints = listingOf ["a"] := by simpa using hmem
    exact listingOf_watched _
  have hstart : initial.Holds none := rfl
  have hone : observation (listingOf ["a"]) = ["a"] := observation_of_sorted (by decide)
  have hreport := poll_listing (some failingAtFirst) (listingOf_watched ["a"]) hstart
  rw [if_neg (by simp), hone] at hreport
  have hfailed : (poll (some failingAtFirst) (.ok (listingOf ["a"])) initial).Failed := by
    rw [hreport]
    exact ⟨rfl, rfl⟩
  have hrefused : (poll (some failingAtFirst) (.ok (listingOf ["a"])) initial).delivery ≠ none := by
    rw [hreport]
    exact Option.some_ne_none _
  obtain ⟨⟨-, -, hlost⟩, -⟩ := (changes_kept_unless_refused (some failingAtFirst) []
    (.ok (listingOf ["a"])) mapped).imp_left fun h => h hfailed
  obtain ⟨-, endpoints, hobserved, hagain⟩ := hlost hrefused
  cases hobserved
  refine ⟨mapped, hfailed, ?_, hagain _ (listingOf_watched _) (List.Perm.refl _)⟩
  rw [hreport]
  rfl

end CatalogWatch

end ClusterDiscovery
