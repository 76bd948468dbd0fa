import ClusterDiscovery.Client.Cluster
import ClusterDiscovery.Client.KubernetesClient
import ClusterDiscovery.Discovery.Watch
import ClusterDiscovery.Environment.File
import ClusterDiscovery.Settings.Loading

/-! # Surroundings of a program

What a program finds where it runs: its environment, the service account of its pod, and the
cluster. A catalog watch polls the cluster through a client, until it is told to stop or the user
asks to. -/

namespace ClusterDiscovery

/-! ## Watching a cluster -/

/-- How a watch of a cluster ended. -/
structure ClusterWatchEnd where
  watch : CatalogWatch
  deliveries : List Delivery
  /-- Whether the user asked to stop during a poll. -/
  isInterrupted : Bool

namespace CatalogWatch

variable {World : Type}

/-- Polls the cluster at most `polls` times, and until the watch is over after a poll. -/
def pollCluster (api : ClusterApi World) (client : KubernetesClient) (listener : Listener)
    (isOver : World → Bool) : Nat → CatalogWatch → Action World ClusterWatchEnd
  | 0, watch => return ⟨watch, [], false⟩
  | polls + 1, watch => do
    let observed ← (client.listEndpoints api .null).outcomeOf
    let first := poll (some listener) observed watch
    if first.isInterrupted then return ⟨first.watch, [], true⟩
    else
      first.log.forM Action.report
      let deliveries := first.delivery.toList
      if isOver (← Action.getWorld) then return ⟨first.watch, deliveries, false⟩
      else do
        let others ← pollCluster api client listener isOver polls first.watch
        return { others with deliveries := deliveries ++ others.deliveries }

def runOnCluster (api : ClusterApi World) (client : KubernetesClient) (listener : Listener)
    (isOver : World → Bool) (polls : Nat) : Action World ClusterWatchEnd := do
  Action.report started
  let ending ← pollCluster api client listener isOver polls initial
  unless ending.isInterrupted do Action.report stopped
  return ending

end CatalogWatch

/-- The events that a listener took. -/
def ClusterWatchEnd.accepted (ending : ClusterWatchEnd) : List Heartbeat :=
  ending.deliveries.filterMap fun
    | .accepted event => some event
    | .refused => none

/-! ## Environment, account and cluster -/

structure Surroundings (World : Type) where
  environment : Environment
  account : ServiceAccount
  api : ClusterApi World
  /-- Whether a watch stops after the poll that left the world like this. -/
  watchIsOver : World → Bool
  /-- How many polls a watch makes at most. -/
  mostPolls : Nat

namespace Surroundings

variable {World α : Type}

def withClient (around : Surroundings World) (settings : KubernetesSettings)
    (action : KubernetesClient → Action World α) : Action World α := do
  let client ← KubernetesClient.ofConfig settings.fields none
    (around.environment.exactly? "HOSTNAME") around.account
  client.during around.api action

def watch (around : Surroundings World) (listener : Listener) (client : KubernetesClient) :
    Action World ClusterWatchEnd :=
  CatalogWatch.runOnCluster around.api client listener around.watchIsOver around.mostPolls

end Surroundings

/-- Surroundings with a cluster in memory. Every poll of the watch takes a listing out of the
script or a failure out of the plan. -/
def Cluster.surroundings (cluster : Cluster) (environment : Environment)
    (account : ServiceAccount) : Surroundings Cluster where
  environment := environment
  account := account
  api := Cluster.api
  watchIsOver cluster := cluster.isAtEnd && !cluster.interrupts
  mostPolls :=
    (cluster.script.getD []).length + cluster.failures.foldl (fun polls f => polls + f.2.length) 1

end ClusterDiscovery
