import ClusterDiscovery.CommandLine.Program
import ClusterDiscovery.Proofs.OptionWords
import ClusterDiscovery.Proofs.PortChoice
import ClusterDiscovery.Proofs.PrimaryPortVariable
import ClusterDiscovery.Proofs.ServedInstances

/-! # The option and the variable of the primary port

A primary port can be named on the command line and in the environment. Both come to the same for
every text that is empty or not blank. A blank text differs: as a variable it names no port, and
as an option it is looked for like any other name.
-/

namespace ClusterDiscovery

open Datum Resource ClusterDiscovery.Action

/-! ## Words for instances -/

/-- The words that ask for a format of the output, or for none in particular. -/
def formatWords : Option OutputFormat → List String
  | none => []
  | some .table => ["-f", "table"]
  | some .json => ["-f", "json"]

/-- The words after the command that ask for the instances of a service. -/
def instancesWords (format : Option OutputFormat) (service : String) : List String :=
  formatWords format ++ [service]

/-- A command with a primary port that counts where it has none of its own. -/
def Command.orPrimaryPort (value : String) : Command → Command
  | .instances service primaryPort format => .instances service (primaryPort.or (some value)) format
  | command => command

theorem primaryPort_isWordFor : CommandName.instances.form.IsWordFor "-p"
    ⟨"--primary-port-name", some 'p', .text⟩ :=
  CommandForm.isWordFor_letter 'p' (by decide +kernel) (by decide) (by decide +kernel) (by decide)
    (by decide +kernel) (by decide +kernel) rfl rfl

theorem format_isWordFor : CommandName.instances.form.IsWordFor "-f"
    ⟨"--format", some 'f', .oneOf ["table", "json"]⟩ :=
  CommandForm.isWordFor_letter 'f' (by decide +kernel) (by decide) (by decide +kernel) (by decide)
    (by decide +kernel) (by decide +kernel) rfl rfl

theorem Command.read_primaryPort (value : String) (rest : List String) :
    Command.read .instances ("-p" :: value :: rest) =
      (Command.read .instances rest).map (Command.orPrimaryPort value) := by
  unfold Command.read
  rw [CommandForm.read_option primaryPort_isWordFor (by decide)]
  cases hread : CommandName.instances.form.read rest with
  | error stop => rfl
  | ok split =>
      have hcheck : CommandName.instances.form.check
          (split.behind [(⟨"--primary-port-name", some 'p', .text⟩, value)]) =
            CommandName.instances.form.check split := CommandForm.check_behind split rfl value
      have hport : (split.behind [(⟨"--primary-port-name", some 'p', .text⟩, value)]).value?
          "--primary-port-name" = (split.value? "--primary-port-name").or (some value) := by
        rw [SplitWords.value?_behind, SplitWords.value?_single]
        rfl
      have hformat : (split.behind [(⟨"--primary-port-name", some 'p', .text⟩, value)]).value?
          "--format" = split.value? "--format" := by
        rw [SplitWords.value?_behind, SplitWords.value?_single]
        exact Option.or_none
      simp only [Except.map, bind, Except.bind, hcheck]
      cases CommandName.instances.form.check split with
      | error issue => rfl
      | ok _ =>
          simp only [hport, hformat]
          rfl

def formatGiven (format : Option OutputFormat) : List GivenOption :=
  ((formatWords format).drop 1).map
    fun name => (⟨"--format", some 'f', .oneOf ["table", "json"]⟩, name)

theorem split_instancesWords (format : Option OutputFormat) (service : String) :
    CommandName.instances.form.split (instancesWords format service) =
      (CommandName.instances.form.split [service]).map (·.behind (formatGiven format)) := by
  match format with
  | none =>
      show CommandName.instances.form.split [service] = _
      cases CommandName.instances.form.split [service] <;> rfl
  | some .table => exact CommandForm.split_option format_isWordFor "table" [service]
  | some .json => exact CommandForm.split_option format_isWordFor "json" [service]

/-- No such command names a primary port. A service that looks like an option is none, and without
a service there is no command. -/
theorem Command.read_instancesWords {format : Option OutputFormat} {service : String}
    {command : Command}
    (h : Command.read .instances (instancesWords format service) = .ok command) :
    ∃ service' format', command = .instances service' none format' := by
  unfold Command.read at h
  obtain ⟨split, hread, h⟩ := bind_eq_ok h
  have hsplit : CommandName.instances.form.split (instancesWords format service) = .ok split := by
    unfold CommandForm.read at hread
    split at hread
    · cases hread
    · next found hfound =>
        split at hread
        · cases hread
        · cases hread
          exact hfound
  rw [split_instancesWords] at hsplit
  cases hsingle : CommandName.instances.form.split [service] with
  | error issue =>
      rw [hsingle] at hsplit
      cases hsplit
  | ok single =>
      rw [hsingle] at hsplit
      cases hsplit
      split at h
      · cases h
      · next hcheck =>
          have htakes : CommandName.instances.form.argument = some "SERVICE" := rfl
          have hargument : (single.behind (formatGiven format)).arguments ≠ [] :=
            CommandForm.arguments_of_check hcheck htakes
          have hgiven : single.given = [] := CommandForm.split_single hsingle hargument
          have hport : (single.behind (formatGiven format)).value? "--primary-port-name" =
              none := by
            unfold SplitWords.behind
            rw [hgiven]
            match format with
            | none | some .table | some .json => rfl
          cases h
          rw [hport]
          exact ⟨_, _, rfl⟩

/-! ## Two ways to name the port -/

def Environment.withVariable (env : Environment) (name value : String) : Environment :=
  { env with values := env.values ++ [(name, value)] }

theorem Environment.valueOf?_withVariable (env : Environment) (name value other : String) :
    valueOf? (env.withVariable name value).processVariables other =
      if Text.lowerCase name = Text.lowerCase other then some value
      else valueOf? env.processVariables other := by
  unfold valueOf? processVariables withVariable
  rw [List.map_append, List.reverse_append]
  by_cases hname : Text.lowerCase name = Text.lowerCase other <;> simp [hname]

theorem Environment.exactly?_withVariable (env : Environment) {name other : String}
    (h : name ≠ other) (value : String) :
    (env.withVariable name value).exactly? other = env.exactly? other := by
  unfold exactly? withVariable
  rw [List.reverse_append]
  simp [h]

theorem GlobalOptions.read_instances (rest : List String) :
    GlobalOptions.read ("instances" :: rest) = .ok (⟨none, false, false⟩, .instances, rest) := by
  have hread : CommandForm.program.read ("instances" :: rest) = .ok ⟨[], "instances" :: rest⟩ := by
    have hoption : CommandForm.isOptionWord "instances" = false := by decide +kernel
    have hsplit : CommandForm.program.split ("instances" :: rest) =
        .ok ⟨[], "instances" :: rest⟩ := by
      simp only [CommandForm.split, List.length_cons, CommandForm.splitUpTo, hoption]
      rfl
    unfold CommandForm.read
    rw [hsplit]
    rfl
  have hname : CommandName.ofWord? "instances" = some .instances := by decide
  unfold GlobalOptions.read
  simp only [hread, List.isEmpty_cons, bind, Except.bind, pure, Except.pure, hname]
  rfl

section Programs

variable {World : Type} (around : Surroundings World)

def Surroundings.withVariable (name value : String) : Surroundings World :=
  { around with environment := around.environment.withVariable name value }

/-- What the command for instances does, once its words and the settings are read. -/
def runInstances (settings : Except Failure Settings) (command : Except NoCommand Command) :
    Action World ProgramEnd :=
  match settings with
  | .error failure => return { exitCode := 1, escaped := some failure }
  | .ok settings => do
    let settings := settings.withOptions ⟨none, false, false⟩
    let level := some (settings.reportLevel ⟨none, false, false⟩)
    match command with
    | .error stop => return { stop.program with level }
    | .ok command =>
      let ending ← endingWith (command.run around settings) false
      return { ending with level }

theorem runProgram_instances (rest : List String) :
    runProgram around ("instances" :: rest) =
      runInstances around (Settings.load around.environment []) (Command.read .instances rest) := by
  cases hload : Settings.load around.environment [] with
  | error failure => simp only [runProgram, runInstances, GlobalOptions.read_instances, hload]
  | ok settings =>
      cases hcommand : Command.read .instances rest <;>
        simp only [runProgram, runInstances, GlobalOptions.read_instances, hload, hcommand]

/-- A variable without a meaning for the command changes nothing but the settings. -/
theorem findInstances_withVariable {name : String} (h : name ≠ "HOSTNAME") (value : String)
    (settings : Settings) (service : String) (format : OutputFormat) :
    Command.findInstances (around.withVariable name value) settings service format =
      Command.findInstances around settings service format := by
  unfold Command.findInstances Surroundings.withClient Surroundings.withVariable
  simp only [Environment.exactly?_withVariable _ h]

theorem runInstances_withVariable {name : String} (h : name ≠ "HOSTNAME") (value : String)
    (settings : Except Failure Settings) (service : String) (format : Option OutputFormat) :
    runInstances (around.withVariable name value) settings
        (Command.read .instances (instancesWords format service)) =
      runInstances around settings (Command.read .instances (instancesWords format service)) := by
  cases settings with
  | error failure => rfl
  | ok settings =>
      cases hcommand : Command.read .instances (instancesWords format service) with
      | error stop => rfl
      | ok command =>
          obtain ⟨service', format', rfl⟩ := Command.read_instancesWords hcommand
          simp only [runInstances, Command.run, findInstances_withVariable around h]

/-- An option and a setting for the same port, where there is no other. -/
theorem runInstances_primaryPort {settings : Settings}
    (unset : settings.discovery.primaryPortName = none) (value service : String)
    (format : OutputFormat) :
    runInstances around (.ok settings) (.ok (.instances service (some value) format)) =
      runInstances around
        (.ok (settings.withPrimaryPort ((some value).filter fun s => !s.isEmpty)))
        (.ok (.instances service none format)) := by
  have hset : (settings.withOptions ⟨none, false, false⟩).discovery.primaryPortName = none := unset
  simp only [runInstances, Command.run, hset, Option.or_none, Option.filter_none, Option.none_or]
  rfl

end Programs

/-- Nothing in an environment names a primary port. If the variable for one is added with a value,
the variables file still gives the same to the settings: it does not refer to that variable. -/
structure Environment.NamesNoPort (env : Environment) (value : String) : Prop where
  unset : valueOf? env.processVariables primaryPortVariable = none
  process : LeavesPrimaryPort env.processVariables
  file : LeavesPrimaryPort env.fileVariables
  unused : ∀ name ∈ Settings.form.names,
    valueOf? (env.withVariable primaryPortVariable value).fileVariables name =
      valueOf? env.fileVariables name

section Agreement

variable {env : Environment} {value : String}

theorem Environment.NamesNoPort.load_eq (h : env.NamesNoPort value) :
    Settings.load env [] = (Settings.load env []).map (·.withPrimaryPort none) := by
  have hsame : env.DifferOnlyIn primaryPortVariable env := ⟨fun _ _ => rfl, fun _ _ => rfl⟩
  have hload := Settings.load_changed hsame h.process h.file
  rwa [Environment.primaryPort?, h.unset] at hload

theorem Environment.NamesNoPort.load_withVariable (h : env.NamesNoPort value) :
    Settings.load (env.withVariable primaryPortVariable value) [] =
      (Settings.load env []).map
        (·.withPrimaryPort ((some value).filter fun s => !(Text.trim s).isEmpty)) := by
  have hchanged : env.DifferOnlyIn primaryPortVariable
      (env.withVariable primaryPortVariable value) := by
    refine ⟨fun other hother => ?_, h.unused⟩
    rw [Environment.valueOf?_withVariable, if_neg fun heq => hother heq.symm]
  have hload := Settings.load_changed hchanged h.process h.file
  rwa [Environment.primaryPort?, Environment.valueOf?_withVariable, if_pos rfl] at hload

theorem Environment.NamesNoPort.settings_unset (h : env.NamesNoPort value) {settings : Settings}
    (hload : Settings.load env [] = .ok settings) : settings.discovery.primaryPortName = none := by
  have hsame := h.load_eq
  rw [hload] at hsame
  rw [Except.ok.inj hsame]
  rfl

variable {World : Type} {around : Surroundings World}

/-- A value that is empty or not blank says the same as an option and as a variable. -/
theorem option_eq_variable (h : around.environment.NamesNoPort value)
    (sound : value = "" ∨ (Text.trim value).isEmpty = false) (service : String)
    (format : Option OutputFormat) :
    runProgram around ("instances" :: "-p" :: value :: instancesWords format service) =
      runProgram (around.withVariable primaryPortVariable value)
        ("instances" :: instancesWords format service) := by
  have hfilter : ((some value).filter fun s => !(Text.trim s).isEmpty) =
      (some value).filter fun s => !s.isEmpty := by
    rcases sound with rfl | hnonblank
    · rfl
    · have hnonempty : value.isEmpty = false := by
        refine Bool.eq_false_iff.mpr fun hempty => ?_
        rw [String.isEmpty_iff.mp hempty] at hnonblank
        cases hnonblank
      rw [Option.filter_some, Option.filter_some, hnonblank, hnonempty]
  have hload : Settings.load (around.withVariable primaryPortVariable value).environment [] =
      (Settings.load around.environment []).map
        (·.withPrimaryPort ((some value).filter fun s => !s.isEmpty)) :=
    hfilter ▸ h.load_withVariable
  rw [runProgram_instances, runProgram_instances, Command.read_primaryPort,
    runInstances_withVariable around (by decide), hload]
  cases hsettings : Settings.load around.environment [] with
  | error failure => rfl
  | ok settings =>
      cases hcommand : Command.read .instances (instancesWords format service) with
      | error stop => rfl
      | ok command =>
          obtain ⟨service', format', rfl⟩ := Command.read_instancesWords hcommand
          exact runInstances_primaryPort around (h.settings_unset hsettings) value service' format'

/-- A variable that is blank says as much as none. -/
theorem blank_variable (h : around.environment.NamesNoPort value)
    (blank : (Text.trim value).isEmpty = true) (service : String)
    (format : Option OutputFormat) :
    runProgram (around.withVariable primaryPortVariable value)
        ("instances" :: instancesWords format service) =
      runProgram around ("instances" :: instancesWords format service) := by
  have hfilter : ((some value).filter fun s => !(Text.trim s).isEmpty) = none := by
    rw [Option.filter_some, blank]
    rfl
  have hload := h.load_withVariable
  rw [hfilter, ← h.load_eq] at hload
  rw [runProgram_instances, runProgram_instances, runInstances_withVariable around (by decide)]
  exact congrArg (runInstances around · _) hload

end Agreement

/-! ## A blank name as an option -/

def exitCodeOf {World : Type} (around : Surroundings World) (world : World) (words : List String) :
    Option Nat :=
  ((runProgram around words).runOn (.start world)).1.toOption.map (·.exitCode)

theorem ProgramEnd.ofFailure_exitCode (failure : Failure) (debug : Bool) :
    (ProgramEnd.ofFailure failure debug).exitCode = 1 := by
  unfold ProgramEnd.ofFailure
  split
  · rfl
  · split <;> rfl

/-- The code to exit with is that of the command, or one if the command fails. -/
theorem runInstances_exitCode {World : Type} {around : Surroundings World} {w w' : World}
    {settings : Settings} {command : Command} {r : Except Failure ProgramEnd}
    (h : RunsTo (command.run around (settings.withOptions ⟨none, false, false⟩)) w r w') :
    ((runInstances around (.ok settings) (.ok command)).runOn (.start w)).1.toOption.map
      (·.exitCode) = some (match r with
        | .ok ending => ending.exitCode
        | .error _ => 1) := by
  have hends : ∃ ending, RunsTo (endingWith (command.run around
      (settings.withOptions ⟨none, false, false⟩)) false) w (.ok ending) w' ∧
        ending.exitCode = match r with
          | .ok ending => ending.exitCode
          | .error _ => 1 := by
    cases r with
    | ok ending => exact ⟨ending, h.outcome.trans (runsTo_pure ending), rfl⟩
    | error f =>
        exact ⟨_, h.outcome.trans (runsTo_pure _), ProgramEnd.ofFailure_exitCode f false⟩
  obtain ⟨ending, hending, hcode⟩ := hends
  have hall : RunsTo (runInstances around (.ok settings) (.ok command)) w
      (.ok { ending with
        level := some ((settings.withOptions ⟨none, false, false⟩).reportLevel
          ⟨none, false, false⟩) }) w' :=
    hending.trans (runsTo_pure _)
  have hresult : ((runInstances around (.ok settings) (.ok command)).runOn (.start w)).1 = _ :=
    hall.result [] []
  rw [hresult, ← hcode]
  rfl

def namelessPorts : List ResourcePort := [⟨none, 8080, none⟩, ⟨none, 9090, none⟩]

/-- An address that is reached on these ports. -/
def namelessSubset : EndpointSubset :=
  ⟨some [⟨"10.0.0.1", none, none, none⟩], none, some namelessPorts⟩

def namelessEndpoints : Endpoints :=
  ⟨some ⟨some "web", some "default", none, none, none⟩, some [namelessSubset]⟩

def namelessService : Service := ⟨some ⟨some "web", some "default", none, none, none⟩, none⟩

/-- A cluster with the service `web` behind this subset, in an environment without variables. -/
def namelessSurroundings : Surroundings Unit :=
  servingSurroundings namelessEndpoints namelessService .empty

theorem namelessSurroundings_namesNoPort (value : String) :
    namelessSurroundings.environment.NamesNoPort value where
  unset := rfl
  process := fun text fields h => by cases h
  file := fun text fields h => by cases h
  unused := fun _ _ => rfl

/-- No name fits one of these ports. -/
theorem selectPort_nameless {name : String} (nonempty : name ≠ "") :
    ∃ failure, selectPort (namelessPorts.map ResourcePort.mapped) (some name) = .error failure := by
  have hchoosable : ∀ port ∈ namelessPorts.map ResourcePort.mapped, ChoosablePort port := by
    intro port hport
    obtain ⟨raw, -, rfl⟩ := List.mem_map.mp hport
    exact ⟨raw.mapped_port.mapping, raw.mapped_port.name⟩
  have hkeys : ∀ port ∈ namelessPorts.map ResourcePort.mapped, nameKey port = "" := by
    decide +kernel
  have hnone : NoChoice (namelessPorts.map ResourcePort.mapped) (some name) := by
    refine .inr ⟨name, ⟨by decide, rfl, nonempty⟩, fun port hport heq => nonempty ?_⟩
    rw [hkeys port hport] at heq
    exact Text.lowerCase_eq_empty.mp heq.symm
  obtain ⟨message, details, hchoice⟩ := choosePort_error hchoosable hnone
  refine ⟨.illegalState message details, ?_⟩
  unfold selectPort
  rw [hchoice]
  rfl

/-- The subset has instances if there is a choice of a port. -/
theorem subsetInstances_nameless (settings : DiscoverySettings) (metadata : settings.metadata = {})
    (secure : SecurePorts) (inNamespace : String) {record : Datum}
    (hservice : namelessService.mapped = .ok record) :
    ∃ instancesOn, subsetInstances settings secure "web" inNamespace record namelessSubset.mapped =
      (selectPort (namelessPorts.map ResourcePort.mapped) settings.primaryPortName).map
        instancesOn := by
  have hcomposed : ∃ found, composedMetadata (fieldOf record "labels")
      (fieldOf record "annotations") (fieldOf namelessSubset.mapped "ports") {} = .ok found := by
    cases hservice
    exact ⟨_, rfl⟩
  obtain ⟨found, hfound⟩ := hcomposed
  have hports : (fieldOf namelessSubset.mapped "ports").items =
      namelessPorts.map ResourcePort.mapped := rfl
  refine ⟨fun port => (fieldOf namelessSubset.mapped "addresses").items.map
    (instanceFields "web" inNamespace found port (portSecure secure record port)), ?_⟩
  unfold subsetInstances
  rw [metadata, hfound, hports]
  cases selectPort (namelessPorts.map ResourcePort.mapped) settings.primaryPortName <;> rfl

/-- How the command ends in these surroundings, with a primary port or without one. -/
theorem nameless_exitCode (primaryPort : Option String) :
    ((runInstances namelessSurroundings (.ok (({} : Settings).withPrimaryPort primaryPort))
      (.ok (.instances "web" none .table))).runOn (.start ())).1.toOption.map (·.exitCode) =
        match selectPort (namelessPorts.map ResourcePort.mapped) primaryPort with
        | .ok _ => some 0
        | .error _ => some 1 := by
  have hmake : ∃ filter,
      DiscoveryClient.make (({} : Settings).withPrimaryPort primaryPort).discovery none =
        .ok ⟨(({} : Settings).withPrimaryPort primaryPort).discovery, .ofInts [443, 8443],
          filter⟩ := ⟨_, rfl⟩
  obtain ⟨filter, hmake⟩ := hmake
  have hserved : ∃ record, namelessService.mapped = .ok record := ⟨_, rfl⟩
  obtain ⟨record, hrecord⟩ := hserved
  have hweb : "web" ≠ "" := by decide
  have hsubsets : namelessEndpoints.subsets = some [namelessSubset] := rfl
  obtain ⟨inNamespace, r, hrun, hfields⟩ :=
    findInstances_served .empty hrecord hsubsets nofun hmake rfl rfl hweb .table
  obtain ⟨instancesOn, hinstances⟩ := subsetInstances_nameless
    (({} : Settings).withPrimaryPort primaryPort).discovery rfl (.ofInts [443, 8443]) inNamespace
    hrecord
  rw [List.map_singleton, List.flatMapM_cons, hinstances] at hfields
  have hport : (({} : Settings).withPrimaryPort primaryPort).discovery.primaryPortName =
    primaryPort := rfl
  rw [hport] at hfields
  have hrun : RunsTo (Command.run namelessSurroundings
      ((({} : Settings).withPrimaryPort primaryPort).withOptions ⟨none, false, false⟩)
      (.instances "web" none .table)) ()
      (r.map fun found => { output := instanceReport .table "web" found }) () := hrun
  rw [runInstances_exitCode hrun]
  cases hchoice : selectPort (namelessPorts.map ResourcePort.mapped) primaryPort with
  | error f =>
      rw [hchoice] at hfields
      cases r with
      | ok found => cases hfields
      | error f' => rfl
  | ok port =>
      rw [hchoice] at hfields
      cases r with
      | error f' => cases hfields
      | ok found => rfl

theorem nameless_load : Settings.load namelessSurroundings.environment [] = .ok {} := by rfl

theorem read_web :
    Command.read .instances (instancesWords none "web") = .ok (.instances "web" none .table) := by
  have hword : CommandForm.isOptionWord "web" = false := by decide +kernel
  have hsplit : CommandName.instances.form.split ["web"] = .ok ⟨[], ["web"]⟩ := by
    simp only [CommandForm.split, List.length_singleton, CommandForm.splitUpTo, hword]
    rfl
  have hread : CommandName.instances.form.read ["web"] = .ok ⟨[], ["web"]⟩ := by
    unfold CommandForm.read
    rw [hsplit]
    rfl
  show Command.read .instances ["web"] = _
  unfold Command.read
  rw [hread]
  rfl

/-- Where no port fits, the option ends the command with a failure. -/
theorem nameless_option_fails {value : String} (nonempty : value ≠ "") :
    exitCodeOf namelessSurroundings () ("instances" :: "-p" :: value :: instancesWords none "web") =
      some 1 := by
  have hfilter : ((some value).filter fun s => !s.isEmpty) = some value := by
    simp [nonempty]
  have hcommand : (Except.ok (Command.instances "web" none .table)).map
      (Command.orPrimaryPort value) =
        (.ok (.instances "web" (some value) .table) : Except NoCommand Command) := rfl
  obtain ⟨failure, hchoice⟩ := selectPort_nameless nonempty
  unfold exitCodeOf
  rw [runProgram_instances, Command.read_primaryPort, read_web, hcommand, nameless_load,
    runInstances_primaryPort _ rfl, hfilter, nameless_exitCode, hchoice]

/-- Without a name for the port, the first port is taken. -/
theorem nameless_without_port :
    exitCodeOf namelessSurroundings () ("instances" :: instancesWords none "web") = some 0 := by
  unfold exitCodeOf
  rw [runProgram_instances, read_web, nameless_load]
  exact nameless_exitCode none

/-- The option for the primary port and its variable come to the same in all surroundings that
name no port otherwise, as long as the value is empty or not blank. A blank variable says as much
as none. A blank option does not, unless it is empty: there are surroundings where the command
fails with it and succeeds with the variable. -/
theorem option_agrees_unless_blank (value : String) :
    (value = "" ∨ (Text.trim value).isEmpty = false →
      ∀ (World : Type) (around : Surroundings World), around.environment.NamesNoPort value →
        ∀ (service : String) (format : Option OutputFormat),
          runProgram around ("instances" :: "-p" :: value :: instancesWords format service) =
            runProgram (around.withVariable primaryPortVariable value)
              ("instances" :: instancesWords format service)) ∧
    ((Text.trim value).isEmpty = true →
      ∀ (World : Type) (around : Surroundings World), around.environment.NamesNoPort value →
        ∀ (service : String) (format : Option OutputFormat),
          runProgram (around.withVariable primaryPortVariable value)
              ("instances" :: instancesWords format service) =
            runProgram around ("instances" :: instancesWords format service)) ∧
    (value ≠ "" → (Text.trim value).isEmpty = true →
      ∃ around : Surroundings Unit, around.environment.NamesNoPort value ∧
        exitCodeOf around () ("instances" :: "-p" :: value :: instancesWords none "web") = some 1 ∧
        exitCodeOf (around.withVariable primaryPortVariable value) ()
          ("instances" :: instancesWords none "web") = some 0) := by
  refine ⟨?_, ?_, ?_⟩
  · intro sound World around h service format
    exact option_eq_variable h sound service format
  · intro blank World around h service format
    exact blank_variable h blank service format
  · intro nonempty blank
    have hport := namelessSurroundings_namesNoPort value
    refine ⟨namelessSurroundings, hport, nameless_option_fails nonempty, ?_⟩
    unfold exitCodeOf
    rw [blank_variable hport blank]
    exact nameless_without_port

/-- An environment that sets something, but not the primary port. -/
def loggingEnvironment : Environment :=
  ⟨[("DISCOVERY_ALL_NAMESPACES", "true")], some "LOG_LEVEL=debug"⟩

theorem loggingEnvironment_namesNoPort : loggingEnvironment.NamesNoPort "metrics" where
  unset := by decide +kernel
  process := by
    intro text fields hvalue
    have hnone : Environment.valueOf? loggingEnvironment.processVariables "DISCOVERY" = none := by
      decide +kernel
    cases hnone.symm.trans hvalue
  file := by
    intro text fields hvalue
    have hnone : Environment.valueOf? loggingEnvironment.fileVariables "DISCOVERY" = none := by
      decide +kernel
    cases hnone.symm.trans hvalue
  unused := by decide +kernel

theorem option_agrees_on_metrics :
    runProgram (servingSurroundings namelessEndpoints namelessService loggingEnvironment)
        ["instances", "-p", "metrics", "-f", "json", "web"] =
      runProgram ((servingSurroundings namelessEndpoints namelessService
          loggingEnvironment).withVariable primaryPortVariable "metrics")
        ["instances", "-f", "json", "web"] ∧
    ∃ around : Surroundings Unit, around.environment.NamesNoPort " " ∧
      exitCodeOf around () ["instances", "-p", " ", "web"] = some 1 ∧
      exitCodeOf (around.withVariable primaryPortVariable " ") () ["instances", "web"] =
        some 0 := by
  have hsound : "metrics" = "" ∨ (Text.trim "metrics").isEmpty = false := .inr (by decide +kernel)
  have hblank : (Text.trim " ").isEmpty = true := by decide +kernel
  refine ⟨?_, (option_agrees_unless_blank " ").2.2 (by decide) hblank⟩
  exact (option_agrees_unless_blank "metrics").1 hsound Unit _ loggingEnvironment_namesNoPort "web"
    (some .json)

end ClusterDiscovery
