import ClusterDiscovery.CommandLine.Surroundings

/-! # The daemon

A catalog watch that runs until the process is told to stop, and reports the pods behind
endpoints whenever they change. All settings come from the environment. -/

namespace ClusterDiscovery

structure DaemonEnd where
  exitCode : Nat
  /-- The level from which on reports are written. -/
  level : String
  /-- The pod names of every change that was reported. -/
  changes : List (List String)
deriving Repr, DecidableEq

namespace Daemon

def disabled : LogEntry := .info "Service discovery disabled, nothing to watch"

def changed : LogEntry := .info "Endpoint pods changed"

def failed : LogEntry := .error "Catalog watch failed"

variable {World : Type}

/-- Runs the daemon. Only unusable settings are a failure; any other ends it with a report. -/
def run (around : Surroundings World) : Action World DaemonEnd := do
  let settings ← Action.ofResult (Settings.load around.environment [])
  let level := settings.logLevel.name
  if !settings.discovery.enabled then
    Action.report disabled
    return ⟨0, level, []⟩
  else
    let listener : Listener := { reports := fun _ => [changed] }
    match ← (around.withClient settings.kubernetes (around.watch listener)).outcomeOf with
    | .ok ending => return ⟨0, level, ending.accepted.map Heartbeat.podNames⟩
    | .error _ =>
      Action.report failed
      return ⟨1, level, []⟩

end Daemon

end ClusterDiscovery
