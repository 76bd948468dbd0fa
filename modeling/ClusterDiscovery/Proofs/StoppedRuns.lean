import ClusterDiscovery.Proofs.RefusedHeartbeats

/-! # Runs that are stopped

A run is nothing but polls, one after the other, and it makes them up to the one during which
somebody stops the watch. The delay does not count, nor what was said to the watch before the run.
-/

namespace ClusterDiscovery

/-- Nobody stops the watch in this round. -/
def Round.Passes (round : Round) : Prop := round.stopsPoll = false ∧ round.stopsPause = false

/-- The user does not interrupt the poll. It may fail in any other way. -/
def Round.Uninterrupted (round : Round) : Prop := round.observed ≠ .error .interrupted

namespace CatalogWatch

theorem pollAll_append (listener : Option Listener)
    (first second : List (Except Failure (List Datum))) (watch : CatalogWatch) :
    let begun := pollAll listener first watch
    let others := pollAll listener second begun.watch
    pollAll listener (first ++ second) watch =
      ⟨others.watch, begun.deliveries ++ others.deliveries, begun.log ++ others.log⟩ := by
  induction first generalizing watch with
  | nil => rfl
  | cons observed rest ih =>
      simp only [List.cons_append, pollAll, ih, List.append_assoc]

end CatalogWatch

namespace StoppableWatch

open CatalogWatch

variable (listener : Option Listener) (delay : Float)

/-! ## Rounds -/

theorem publish_uninterrupted (event : Heartbeat) (watch : CatalogWatch) :
    (publish listener event watch).isInterrupted = false := by
  unfold publish
  cases listener with
  | none => rfl
  | some l => cases hfails : l.failsAfter watch.calls <;> simp [hfails]

theorem poll_uninterrupted {observed : Except Failure (List Datum)}
    (uninterrupted : observed ≠ .error .interrupted) (watch : CatalogWatch) :
    (poll listener observed watch).isInterrupted = false := by
  cases observed with
  | error f =>
      have hf : f ≠ .interrupted := fun h => uninterrupted (congrArg Except.error h)
      rw [poll_failed listener hf]
      rfl
  | ok endpoints =>
      unfold poll
      simp only
      split
      · rfl
      split
      · rfl
      split
      · rfl
      · exact publish_uninterrupted listener _ _

theorem pollRounds_stopped (rounds : List Round) (watch : CatalogWatch) :
    pollRounds listener delay rounds ⟨watch, true⟩ = ⟨⟨watch, true⟩, .stopped, 0, [], []⟩ := by
  cases rounds <;> rfl

/-- A round polls once. Whoever stops the watch in it is heard after it. -/
theorem pollRounds_cons {round : Round} (uninterrupted : round.Uninterrupted) (rest : List Round)
    (watch : CatalogWatch) :
    let report := poll listener round.observed watch
    let others := pollRounds listener delay rest
      ⟨report.watch, round.stopsPoll || round.stopsPause⟩
    pollRounds listener delay (round :: rest) ⟨watch, false⟩ =
      ⟨others.watch, others.status, others.polls + 1,
        report.delivery.toList ++ others.deliveries, report.log ++ others.log⟩ := by
  intro report others
  obtain ⟨observed, stopsPoll, stopsPause⟩ := round
  have hnext (report : PollReport) :
      ((({ watch := report.watch, isStopped := false } : StoppableWatch).during stopsPoll).pause
        delay stopsPause).2 = ⟨report.watch, stopsPoll || stopsPause⟩ := by
    cases stopsPoll <;> cases stopsPause <;> rfl
  have hpassed : (poll listener observed watch).isInterrupted = false :=
    poll_uninterrupted listener uninterrupted watch
  conv => lhs; unfold pollRounds
  simp only [Bool.false_eq_true, if_false, hpassed, hnext, others, report]

/-- Rounds in which nobody stops the watch poll once each, and the run goes on after them. -/
theorem pollRounds_append {before : List Round} (passes : ∀ round ∈ before, round.Passes)
    (uninterrupted : ∀ round ∈ before, round.Uninterrupted) (rest : List Round)
    (watch : CatalogWatch) :
    let polled := pollAll listener (before.map (·.observed)) watch
    let others := pollRounds listener delay rest ⟨polled.watch, false⟩
    pollRounds listener delay (before ++ rest) ⟨watch, false⟩ =
      ⟨others.watch, others.status, before.length + others.polls,
        polled.deliveries ++ others.deliveries, polled.log ++ others.log⟩ := by
  induction before generalizing watch with
  | nil => simp [pollAll]
  | cons round before ih =>
      obtain ⟨hpoll, hpause⟩ := passes round List.mem_cons_self
      have hrest := ih (fun r hr => passes r (List.mem_cons_of_mem _ hr))
        (fun r hr => uninterrupted r (List.mem_cons_of_mem _ hr))
      rw [List.cons_append, pollRounds_cons listener delay (uninterrupted round List.mem_cons_self)]
      simp only [hpoll, hpause, Bool.or_self, hrest, List.map_cons, pollAll, List.length_cons,
        List.append_assoc, Nat.add_right_comm]

/-- The round in which somebody stops the watch is the last one that polls. -/
theorem pollRounds_until_stop {before : List Round} {last : Round}
    (passes : ∀ round ∈ before, round.Passes) (stops : last.stopsPoll = true)
    (uninterrupted : ∀ round ∈ before ++ [last], round.Uninterrupted) (after : List Round)
    (watch : CatalogWatch) :
    let polled := pollAll listener ((before ++ [last]).map (·.observed)) watch
    pollRounds listener delay (before ++ last :: after) ⟨watch, false⟩ =
      ⟨⟨polled.watch, true⟩, .stopped, before.length + 1, polled.deliveries, polled.log⟩ := by
  have hlast : last.Uninterrupted := uninterrupted last (by simp)
  rw [pollRounds_append listener delay passes
    (fun round hround => uninterrupted round (List.mem_append_left _ hround)),
    pollRounds_cons listener delay hlast]
  simp only [stops, Bool.true_or, pollRounds_stopped, List.map_append, List.map_cons,
    List.map_nil, pollAll_append, pollAll, List.append_nil, Nat.zero_add]

/-! ## Runs -/

/-- If somebody stops the watch during the `n`-th poll of a run, the run makes exactly `n` polls
and returns. It leaves the watch, and tells the listener and the log, what `n` successive polls do
from the same start. No poll before ends the run, however it fails and whatever the listener does,
and it makes no difference whether the watch was stopped before the run. -/
theorem run_polls_until_stopped (w : StoppableWatch) (before : List Round) (last : Round)
    (after : List Round) (passes : ∀ round ∈ before, round.Passes)
    (stops : last.stopsPoll = true)
    (uninterrupted : ∀ round ∈ before ++ [last], round.Uninterrupted) :
    let polled := pollAll listener ((before ++ [last]).map (·.observed)) w.watch
    let ended := w.run listener delay (before ++ last :: after)
    ended.status = .stopped ∧ ended.polls = before.length + 1 ∧
      ended.watch = ⟨polled.watch, true⟩ ∧ ended.deliveries = polled.deliveries ∧
      ended.log = started :: polled.log ++ [stopped] ∧
      (∀ k ≤ before.length,
        let begun := w.run listener delay (before.take k)
        begun.status = .polling ∧ begun.polls = k) ∧
      ∀ isStopped, run listener delay (before ++ last :: after) ⟨w.watch, isStopped⟩ = ended := by
  intro polled ended
  have hended : ended = ⟨⟨polled.watch, true⟩, .stopped, before.length + 1, polled.deliveries,
      started :: polled.log ++ [stopped]⟩ := by
    simp only [ended, run]
    rw [pollRounds_until_stop listener delay passes stops uninterrupted]
    rfl
  refine ⟨by rw [hended], by rw [hended], by rw [hended], by rw [hended], by rw [hended], ?_,
    fun isStopped => rfl⟩
  intro k hk begun
  have hbegun := pollRounds_append listener delay
    (fun round (hround : round ∈ before.take k) => passes round (List.mem_of_mem_take hround))
    (fun round hround => uninterrupted round
      (List.mem_append_left _ (List.mem_of_mem_take hround))) [] w.watch
  rw [List.append_nil] at hbegun
  simp [begun, run, hbegun, pollRounds, hk]

/-- A read that fails, and a first change that the listener refuses. -/
def troubledRounds : List Round :=
  [{ observed := .error (.external "OSError" "down") }, { observed := .ok [] }]

/-- A poll without any news, during which somebody stops the watch. -/
def quietRound : Round := { observed := .ok [], stopsPoll := true }

/-- A watch that was stopped before its run polls three times all the same, without a delay. -/
theorem stopped_in_third_poll :
    (∀ round ∈ troubledRounds, round.Passes) ∧
      (∀ round ∈ troubledRounds ++ [quietRound], round.Uninterrupted) ∧
      let ended := run (some failingAtFirst) (-1.0)
        (troubledRounds ++ quietRound :: troubledRounds) ⟨initial, true⟩
      ended.status = .stopped ∧ ended.polls = 3 ∧ ended.watch.watch.state = some [] ∧
        ended.deliveries = [.refused] ∧
        ended.log = [started, pollFailed, updated, pollFailed, stopped] := by
  have passes : ∀ round ∈ troubledRounds, round.Passes := by
    simp [troubledRounds, Round.Passes]
  have uninterrupted : ∀ round ∈ troubledRounds ++ [quietRound], round.Uninterrupted := by
    simp [troubledRounds, quietRound, Round.Uninterrupted]
  have hnone : observedNames [] = .ok [] := by
    simp [observedNames, endpointPodNames, sortedNames, texts?]
  have hpolled : pollAll (some failingAtFirst)
      ((troubledRounds ++ [quietRound]).map (·.observed)) initial =
      ⟨⟨some [], 1⟩, [.refused], [pollFailed, updated, pollFailed]⟩ := by
    simp only [troubledRounds, quietRound, List.cons_append, List.nil_append, List.map_cons,
      List.map_nil, pollAll, poll, hnone]
    rfl
  obtain ⟨hstatus, hpolls, hwatch, hdeliveries, hlog, -⟩ :=
    run_polls_until_stopped (some failingAtFirst) (-1.0) ⟨initial, true⟩ troubledRounds quietRound
      troubledRounds passes rfl uninterrupted
  rw [hpolled] at hwatch hdeliveries hlog
  exact ⟨passes, uninterrupted, hstatus, hpolls, congrArg (·.watch.state) hwatch, hdeliveries,
    hlog⟩

end StoppableWatch

end ClusterDiscovery
