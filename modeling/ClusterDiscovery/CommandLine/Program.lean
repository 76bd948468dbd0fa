import ClusterDiscovery.CommandLine.Command
import ClusterDiscovery.CommandLine.Surroundings
import ClusterDiscovery.Discovery.Client
import ClusterDiscovery.Json.Writer

/-! # The program

Runs a command line: reads it, loads the settings, connects a client and prints what the command
finds. Settings of the command line go before those of the environment. -/

namespace ClusterDiscovery

structure ProgramEnd where
  exitCode : Nat := 0
  output : String := ""
  errorOutput : String := ""
  /-- The level from which on reports are written, once it was set. -/
  level : Option String := none
  /-- A failure that is printed with where it arose. -/
  traced : Option Failure := none
  /-- A failure that the program does not handle. -/
  escaped : Option Failure := none
  /-- The seconds between polls and the state of a watch that was started. -/
  watch : Option (Float × CatalogWatch) := none

namespace NoCommand

def program : NoCommand → ProgramEnd
  | .help form true => { output := form.helpText }
  | .help form false => { exitCode := 2, errorOutput := form.helpText }
  | .misuse form issue => { exitCode := 2, errorOutput := issue.report form }

end NoCommand

namespace Settings

/-- Settings with what the command line says in their place. An empty namespace says nothing. -/
def withOptions (settings : Settings) (options : GlobalOptions) : Settings :=
  let named := options.inNamespace.filter fun s => !s.isEmpty
  let inNamespace := named.getD settings.kubernetes.defaultNamespace
  let everywhere := options.allNamespaces || settings.discovery.allNamespaces
  { settings with
    kubernetes := { settings.kubernetes with defaultNamespace := inNamespace }
    discovery := { settings.discovery with allNamespaces := everywhere } }

/-- The level from which on reports are written. -/
def reportLevel (settings : Settings) (options : GlobalOptions) : String :=
  if options.debug then "DEBUG" else settings.logLevel.name

end Settings

/-! ## Output -/

def line (s : String) : String := s ++ "\n"

def padded (width : Nat) (s : String) : String :=
  String.ofList (Text.padRight width ' ' s.toList)

def tableRow (inNamespace uri secure instanceId : String) : String :=
  padded 20 inNamespace ++ " " ++ padded 32 uri ++ " " ++ padded 7 secure ++ " " ++ instanceId

def instanceRow (i : ServiceInstance) : String :=
  let instanceId := (i.instanceId.filter fun s => !s.isEmpty).getD "-"
  tableRow (i.inNamespace.getD "") i.uri (if i.secure then "true" else "false") instanceId

def instanceTable (service : String) (found : List ServiceInstance) : String :=
  if found.isEmpty then line ("No instances found for " ++ service)
  else String.join ((tableRow "NAMESPACE" "URI" "SECURE" "INSTANCE ID"
    :: found.map instanceRow).map line)

def instanceReport (format : OutputFormat) (service : String) (found : List ServiceInstance) :
    String :=
  match format with
  | .table => instanceTable service found
  | .json => line (Json.write ⟨true, some 2⟩ (.list (found.map ServiceInstance.fields)))

/-- Names, one on a line. A name that is missing leaves its line empty. -/
def nameReport (names : List Datum) : String :=
  String.join (names.map fun name => line (if name.isNull then "" else Failure.shown name))

def heartbeatReport (event : Heartbeat) : String :=
  line ("🔄 " ++ toString event.podNames.length ++ " endpoint pods: "
    ++ ", ".intercalate event.podNames)

def nothingToWatch : String := "Service discovery disabled, nothing to watch"

/-! ## Commands -/

variable {World : Type}

def ProgramEnd.ofFailure (failure : Failure) (debug : Bool) : ProgramEnd :=
  if failure.isOwn then
    { exitCode := 1
      errorOutput := line ("❌ " ++ failure.message)
      traced := if debug then some failure else none }
  else match failure with
    | .interrupted => { exitCode := 1, errorOutput := "\nAborted!\n" }
    | failure => { exitCode := 1, escaped := some failure }

/-- Ends with what an action prints, or with its failure. -/
def endingWith (action : Action World ProgramEnd) (debug : Bool) : Action World ProgramEnd := do
  match ← action.outcomeOf with
  | .ok ending => return ending
  | .error failure => return .ofFailure failure debug

namespace Command

def findInstances (around : Surroundings World) (settings : Settings) (service : String)
    (format : OutputFormat) : Action World ProgramEnd :=
  around.withClient settings.kubernetes fun client => do
    let discovery ← Action.ofResult (DiscoveryClient.make settings.discovery none)
    let found ← discovery.getInstances (client.reader around.api) (.text service)
    return { output := instanceReport format service found }

def listServices (around : Surroundings World) (settings : Settings) (filter : Option String) :
    Action World ProgramEnd :=
  around.withClient settings.kubernetes fun client => do
    let discovery ← Action.ofResult (DiscoveryClient.make settings.discovery none)
    let predicate := match filter with
      | some source => .expression source
      | none => .configured
    let names ← discovery.getServices (client.reader around.api) predicate
    return { output := nameReport names }

def watchCatalog (around : Surroundings World) (settings : Settings) :
    Action World ProgramEnd :=
  around.withClient settings.kubernetes fun client => do
    let ending ← around.watch { reports := fun _ => [.info "Catalog changed"] } client
    let events := String.join (ending.accepted.map heartbeatReport)
    return {
      output := events ++ (if ending.isInterrupted then line "Stopped" else "")
      watch := some (settings.discovery.watchDelay, ending.watch) }

/-- Runs a command with settings. -/
def run (around : Surroundings World) (settings : Settings) : Command → Action World ProgramEnd
  | .instances service primaryPort format =>
    let primaryPort := primaryPort.filter fun s => !s.isEmpty
    let primaryPortName := primaryPort.or settings.discovery.primaryPortName
    let discovery := { settings.discovery with primaryPortName }
    findInstances around { settings with discovery } service format
  | .services filter => listServices around settings filter
  | .watch delay =>
    if !settings.discovery.enabled then return { output := line nothingToWatch }
    else
      let watchDelay := delay.getD settings.discovery.watchDelay
      let discovery := { settings.discovery with watchDelay }
      watchCatalog around { settings with discovery }

end Command

/-- Runs the words of a command line. The words after the command are read when the level of the
reports is set already. -/
def runProgram (around : Surroundings World) (words : List String) : Action World ProgramEnd := do
  match GlobalOptions.read words with
  | .error stop => return stop.program
  | .ok (options, name, rest) =>
    match Settings.load around.environment [] with
    | .error failure => return { exitCode := 1, escaped := some failure }
    | .ok settings =>
      let settings := settings.withOptions options
      let level := some (settings.reportLevel options)
      match Command.read name rest with
      | .error stop => return { stop.program with level }
      | .ok command =>
        let ending ← endingWith (command.run around settings) options.debug
        return { ending with level }

end ClusterDiscovery
