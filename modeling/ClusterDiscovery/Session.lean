import ClusterDiscovery.Failure

/-! # Actions

An action runs over a world, may fail, and leaves a trace: what it reported and how long it
waited. A failed action keeps the changes and the trace that it made before. -/

namespace ClusterDiscovery

/-! ## Log entries -/

inductive LogLevel where
  | debug | info | warning | error
deriving Repr, DecidableEq

structure LogEntry where
  level : LogLevel
  event : String
deriving Repr, DecidableEq

namespace LogEntry

def debug (event : String) : LogEntry := ⟨.debug, event⟩

def info (event : String) : LogEntry := ⟨.info, event⟩

def warning (event : String) : LogEntry := ⟨.warning, event⟩

def error (event : String) : LogEntry := ⟨.error, event⟩

end LogEntry

/-! ## Sessions -/

/-- A world and the trace of the actions on it. -/
structure Session (World : Type) where
  world : World
  log : List LogEntry
  /-- The seconds waited between attempts. -/
  waits : List Float

def Session.start {World : Type} (world : World) : Session World := ⟨world, [], []⟩

abbrev Action (World α : Type) := ExceptT Failure (StateM (Session World)) α

namespace Action

variable {World α : Type}

def runOn (action : Action World α) (session : Session World) :
    Except Failure α × Session World :=
  (ExceptT.run action).run session

def report (entry : LogEntry) : Action World Unit :=
  modify fun session => { session with log := session.log ++ [entry] }

def waitFor (seconds : Float) : Action World Unit :=
  modify fun session => { session with waits := session.waits ++ [seconds] }

def getWorld : Action World World := return (← get).world

def setWorld (world : World) : Action World Unit :=
  modify fun session => { session with world }

def modifyWorld (change : World → World) : Action World Unit :=
  modify fun session => { session with world := change session.world }

def ofResult (result : Except Failure α) : Action World α :=
  match result with
  | .ok a => pure a
  | .error f => throw f

def ofReading (result : Except Fault α) : Action World α :=
  match result with
  | .ok a => pure a
  | .error f => throw (.fault f)

/-- Runs an action and gives its result, a failure included. -/
def outcomeOf (action : Action World α) : Action World (Except Failure α) :=
  tryCatch (return .ok (← action)) fun f => return .error f

end Action

/-! ## Reading a cluster

What discovery needs to read of a cluster. Mapped endpoints and services are plain records; an
object that does not exist is null. -/

structure ClusterReader (World : Type) where
  /-- The namespace that is read when none is given. -/
  ownNamespace : World → String
  getEndpoints : Datum → Datum → Action World Datum
  listEndpointsEverywhere : Datum → Action World (List Datum)
  getService : Datum → Datum → Action World Datum
  /-- The services of the own namespace, or of all, that carry the labels. -/
  listServices : Bool → Datum → Action World (List Datum)
  /-- Puts back a service of the last listing, after a filter has looked at it. -/
  keepService : Nat → Datum → World → World

end ClusterDiscovery
