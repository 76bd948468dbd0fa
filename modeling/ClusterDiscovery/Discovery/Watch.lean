import ClusterDiscovery.Instance
import ClusterDiscovery.Resource.Mapping
import ClusterDiscovery.Session

/-! # Catalog watch

A watch polls the endpoints and publishes a heartbeat whenever the pods behind them have changed.
Pod names are compared as a sorted list with repetitions. A failed poll publishes nothing and
does not end the watch. A run polls again and again, with a pause in between, until somebody stops
it. -/

namespace ClusterDiscovery

open Datum

/-- Somebody who is told of heartbeats. -/
structure Listener where
  /-- Whether it fails when it was called that often before. -/
  failsAfter : Nat → Bool := fun _ => false
  /-- What it reports of an event. -/
  reports : Heartbeat → List LogEntry := fun _ => []

/-- How a listener was told of an event. -/
inductive Delivery where
  | accepted (event : Heartbeat)
  | refused
deriving Repr, DecidableEq

/-- What a watch keeps between polls. -/
structure CatalogWatch where
  /-- The pod names of the last poll that saw any endpoints. -/
  state : Option (List Datum)
  calls : Nat

structure PollReport where
  watch : CatalogWatch
  event : Option Heartbeat
  delivery : Option Delivery
  log : List LogEntry
  /-- Whether the user interrupted the poll, which is passed on to its caller. -/
  isInterrupted : Bool := false

/-- Nothing was published and nobody was told of anything. -/
def PollReport.silent (watch : CatalogWatch) : PollReport :=
  { watch, event := none, delivery := none, log := [] }

/-- All texts of a list, if there is nothing else in it. -/
def texts? : List Datum → Option (List String)
  | [] => some []
  | d :: rest => do return (← d.text?) :: (← texts? rest)

/-- All integers of a list, if there is nothing else in it. -/
def ints? : List Datum → Option (List Int)
  | [] => some []
  | .int i :: rest => do return i :: (← ints? rest)
  | _ => none

/-- Names in ascending order. Names of unlike kinds have no order. -/
def sortedNames (names : List Datum) : Except Fault (List Datum) :=
  match texts? names, ints? names with
  | some texts, _ => .ok ((texts.mergeSort (· ≤ ·)).map .text)
  | none, some ints => .ok ((ints.mergeSort (· ≤ ·)).map .int)
  | none, none => if names.length ≤ 1 then .ok names else .error .wrongType

/-- The pod names that a poll observes. -/
def observedNames (endpoints : List Datum) : Except Fault (List Datum) := do
  sortedNames (← endpointPodNames endpoints)

namespace CatalogWatch

def discoveryType : String := "kubernetes_catalog"

def initial : CatalogWatch := ⟨none, 0⟩

def updated : LogEntry := .debug "Received endpoints update"

def pollFailed : LogEntry := .error "Error watching Kubernetes services"

/-- Whether names differ from those of the last poll. -/
def isNews (watch : CatalogWatch) (names : List Datum) : Bool :=
  match watch.state with
  | some state => !sameAll names state
  | none => true

/-- Tells the listener, if there is one, of an event. -/
def publish (listener : Option Listener) (event : Heartbeat) (watch : CatalogWatch) :
    PollReport :=
  match listener with
  | none => { watch, event := some event, delivery := none, log := [updated] }
  | some l =>
    let told := { watch with calls := watch.calls + 1 }
    if l.failsAfter watch.calls then
      { watch := told, event := none, delivery := some .refused, log := [updated, pollFailed] }
    else
      { watch := told, event := some event, delivery := some (.accepted event),
        log := updated :: l.reports event }

/-- One poll that observed endpoints, or failed to. -/
def poll (listener : Option Listener) (observed : Except Failure (List Datum))
    (watch : CatalogWatch) : PollReport :=
  match observed with
  | .error .interrupted => { PollReport.silent watch with isInterrupted := true }
  | .error _ => { PollReport.silent watch with log := [pollFailed] }
  | .ok endpoints =>
    match observedNames endpoints with
    | .error _ => { PollReport.silent watch with log := [pollFailed] }
    | .ok names =>
      let next := { watch with state := some names }
      if !watch.isNews names then .silent next
      else match (Heartbeat.ofFields [(.text "pod_names", .list names)]).toExcept with
        | .error _ => { PollReport.silent next with log := [updated, pollFailed] }
        | .ok event => publish listener event next

/-- What comes of several polls. -/
structure RunReport where
  watch : CatalogWatch
  deliveries : List Delivery
  log : List LogEntry

def started : LogEntry := .info "Starting catalog watch"

def stopped : LogEntry := .info "Catalog watch stopped"

def pollAll (listener : Option Listener) :
    List (Except Failure (List Datum)) → CatalogWatch → RunReport
  | [], watch => ⟨watch, [], []⟩
  | observed :: rest, watch =>
    let first := poll listener observed watch
    let others := pollAll listener rest first.watch
    ⟨others.watch, first.delivery.toList ++ others.deliveries, first.log ++ others.log⟩

end CatalogWatch

/-! ## Runs -/

/-- A watch together with the flag that ends its runs. -/
structure StoppableWatch where
  watch : CatalogWatch
  /-- Whether somebody stopped the watch since its last run began. -/
  isStopped : Bool

/-- What happens around a watch while a run polls once and pauses. -/
structure Round where
  /-- What the poll finds in the cluster. -/
  observed : Except Failure (List Datum)
  /-- Whether somebody stops the watch during the poll. -/
  stopsPoll : Bool := false
  /-- Whether somebody stops the watch during the pause after the poll. -/
  stopsPause : Bool := false

/-- Rounds with these polls. During the last of them somebody stops the watch. -/
def Round.stoppedInLast : List (Except Failure (List Datum)) → List Round
  | [] => []
  | [observed] => [{ observed, stopsPoll := true }]
  | observed :: rest => { observed } :: stoppedInLast rest

/-- How a run stands after its rounds. -/
inductive RunStatus where
  | polling
  | stopped
  /-- The user asked to stop in the middle of a poll. -/
  | interrupted
deriving Repr, DecidableEq

/-- How a pause came to its end. -/
inductive PauseEnd where
  | stopped
  | elapsed
deriving Repr, DecidableEq

/-- What a run has done so far. -/
structure RunProgress where
  watch : StoppableWatch
  status : RunStatus
  polls : Nat
  deliveries : List Delivery
  log : List LogEntry

namespace StoppableWatch

def stop (w : StoppableWatch) : StoppableWatch := { w with isStopped := true }

/-- A stretch of time in which somebody may stop the watch. -/
def during (stops : Bool) (w : StoppableWatch) : StoppableWatch := if stops then w.stop else w

/-- Waits until the watch is stopped, but no longer than the delay. Where there is no delay, the
time is up before the flag is looked at. -/
def pause (delay : Float) (stops : Bool) (w : StoppableWatch) : PauseEnd × StoppableWatch :=
  let next := w.during stops
  (if delay > 0.0 && next.isStopped then .stopped else .elapsed, next)

/-- One poll and one pause in every round, for as long as the watch is not stopped. A failed poll
ends nothing; an interruption by the user ends everything. -/
def pollRounds (listener : Option Listener) (delay : Float) :
    List Round → StoppableWatch → RunProgress
  | [], w => ⟨w, if w.isStopped then .stopped else .polling, 0, [], []⟩
  | round :: rest, w =>
    if w.isStopped then ⟨w, .stopped, 0, [], []⟩
    else
      let report := w.watch.poll listener round.observed
      let polled := { w with watch := report.watch }.during round.stopsPoll
      if report.isInterrupted then ⟨polled, .interrupted, 1, [], []⟩
      else
        -- The flag alone decides whether there is another round, not the end of the pause.
        let (_, next) := polled.pause delay round.stopsPause
        let others := pollRounds listener delay rest next
        ⟨others.watch, others.status, others.polls + 1,
          report.delivery.toList ++ others.deliveries, report.log ++ others.log⟩

/-- Polls until somebody stops the watch. To stop it beforehand has no effect. -/
def run (listener : Option Listener) (delay : Float) (rounds : List Round) (w : StoppableWatch) :
    RunProgress :=
  let progress := pollRounds listener delay rounds { w with isStopped := false }
  let ending := if progress.status = .stopped then [CatalogWatch.stopped] else []
  { progress with log := CatalogWatch.started :: progress.log ++ ending }

end StoppableWatch

/-- A run that is stopped during the last of its polls. -/
def CatalogWatch.run (listener : Option Listener) (polls : List (Except Failure (List Datum)))
    (watch : CatalogWatch) (delay : Float := 30.0) : RunReport :=
  let progress := StoppableWatch.run listener delay (Round.stoppedInLast polls) ⟨watch, false⟩
  ⟨progress.watch.watch, progress.deliveries, progress.log⟩

end ClusterDiscovery
