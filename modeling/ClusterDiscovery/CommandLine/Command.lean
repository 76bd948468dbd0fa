import ClusterDiscovery.CommandLine.Options
import ClusterDiscovery.Number.Numeral

/-! # Commands

The commands of the program and how its command line is read. Options before the command hold for
all commands; they are read, and the command is looked up, before the words after it are. -/

namespace ClusterDiscovery

structure GlobalOptions where
  inNamespace : Option String
  allNamespaces : Bool
  debug : Bool
deriving Repr, DecidableEq

inductive OutputFormat where
  | table | json
deriving Repr, DecidableEq

inductive Command where
  /-- Prints the instances of a service. -/
  | instances (service : String) (primaryPort : Option String) (format : OutputFormat)
  /-- Prints the names of the services that a filter selects. -/
  | services (filter : Option String)
  /-- Reports the changes of the pods behind endpoints. -/
  | watch (delay : Option Float)

inductive NoCommand where
  /-- Help is shown, because it was asked for or because there are no words at all. -/
  | help (form : CommandForm) (isAsked : Bool)
  | misuse (form : CommandForm) (issue : UsageIssue)
deriving Repr, DecidableEq

inductive CommandName where
  | instances | services | watch
deriving Repr, DecidableEq

namespace CommandName

def all : List CommandName := [.instances, .services, .watch]

def word : CommandName → String
  | .instances => "instances"
  | .services => "services"
  | .watch => "watch"

def ofWord? (word : String) : Option CommandName := all.find? fun name => name.word == word

def form : CommandName → CommandForm
  | .instances =>
    { path := "cli instances"
      operands := "SERVICE"
      options := [⟨"--primary-port-name", some 'p', .text⟩,
        ⟨"--format", some 'f', .oneOf ["table", "json"]⟩, helpOption]
      argument := some "SERVICE"
      interspersed := true }
  | .services =>
    { path := "cli services"
      operands := ""
      options := [⟨"--filter", some 'f', .text⟩, helpOption]
      argument := none
      interspersed := true }
  | .watch =>
    { path := "cli watch"
      operands := ""
      options := [⟨"--delay", none, .number⟩, helpOption]
      argument := none
      interspersed := true }

end CommandName

namespace CommandForm

/-- The program, as it is called before the name of a command. -/
def program : CommandForm where
  path := "cli"
  operands := "COMMAND [ARGS]..."
  options := [⟨"--namespace", some 'n', .text⟩, ⟨"--all-namespaces", some 'A', .absent⟩,
    ⟨"--debug", none, .absent⟩, helpOption]
  argument := none
  interspersed := false

/-- Tells words apart, unless they ask for help. -/
def read (form : CommandForm) (words : List String) : Except NoCommand SplitWords :=
  match form.split words with
  | .error issue => .error (.misuse form issue)
  | .ok split => if split.has helpOption.name then .error (.help form true) else .ok split

/-- Checks the value that an option is given last. -/
def checkValue (split : SplitWords) (option : OptionForm) : Except UsageIssue Unit :=
  let value := (split.value? option.name).getD ""
  match option.value with
  | .absent | .text => .ok ()
  | .number =>
    if (Number.readFloat? value.toList).isSome then .ok () else .error (.noNumber option value)
  | .oneOf choices =>
    if choices.contains value then .ok () else .error (.notAmong option value choices)

/-- Checks options in the order in which they are given, then that there are as many arguments
as the command takes. -/
def check (form : CommandForm) (split : SplitWords) : Except UsageIssue Unit := do
  split.givenForms.forM (checkValue split)
  match form.argument, split.arguments with
  | some name, [] => throw (.missingArgument name)
  | some _, _ :: extra | none, extra =>
    unless extra.isEmpty do throw (.extraArguments extra)

end CommandForm

namespace GlobalOptions

def read (words : List String) : Except NoCommand (GlobalOptions × CommandName × List String) := do
  let form := CommandForm.program
  if words.isEmpty then throw (.help form false)
  let split ← form.read words
  match split.arguments with
  | [] => throw (.misuse form .missingCommand)
  | word :: rest =>
    match CommandName.ofWord? word with
    | some command =>
      let options := ⟨split.value? "--namespace", split.has "--all-namespaces", split.has "--debug"⟩
      return (options, command, rest)
    | none =>
      if word.startsWith "-" then discard (form.read (word :: rest))
      let similar := Text.similarTo word (CommandName.all.map CommandName.word)
      throw (.misuse form (.unknownCommand word similar))

end GlobalOptions

namespace Command

def formatNamed (name : Option String) : OutputFormat :=
  if name == some "json" then .json else .table

/-- The command that a name and the words after it stand for. -/
def read (name : CommandName) (words : List String) : Except NoCommand Command := do
  let split ← name.form.read words
  match name.form.check split with
  | .error issue => throw (.misuse name.form issue)
  | .ok () => return match name with
    | .instances => .instances (split.arguments.headD "") (split.value? "--primary-port-name")
        (formatNamed (split.value? "--format"))
    | .services => .services (split.value? "--filter")
    | .watch => .watch ((split.value? "--delay").bind fun s => Number.readFloat? s.toList)

end Command

end ClusterDiscovery
