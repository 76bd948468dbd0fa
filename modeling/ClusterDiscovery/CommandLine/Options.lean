import ClusterDiscovery.Text.Class
import ClusterDiscovery.Text.Similarity

/-! # Options of a command line

A command takes options and arguments. An option has a long name and perhaps a letter; some take
a value. Letters may be joined, and the value may stand in the same word as its option or in the
next. -/

namespace ClusterDiscovery

inductive OptionValue where
  /-- Nothing: the option is given or not. -/
  | absent
  | text
  | number
  | oneOf (choices : List String)
deriving Repr, DecidableEq

structure OptionForm where
  /-- The long name, with its dashes. -/
  name : String
  letter : Option Char
  value : OptionValue
deriving Repr, DecidableEq

structure CommandForm where
  /-- The words by which the command is called. -/
  path : String
  /-- What stands after the options in a summary. -/
  operands : String
  options : List OptionForm
  argument : Option String
  /-- Whether options may come after arguments. -/
  interspersed : Bool
deriving Repr, DecidableEq

inductive UsageIssue where
  | unknownOption (name : String) (similar : List String)
  | unexpectedValue (option : String)
  | missingValue (option : String)
  | unknownCommand (name : String) (similar : List String)
  | missingCommand
  | missingArgument (name : String)
  | extraArguments (arguments : List String)
  | notAmong (option : OptionForm) (value : String) (choices : List String)
  | noNumber (option : OptionForm) (value : String)
deriving Repr, DecidableEq

namespace OptionForm

def takesValue (form : OptionForm) : Bool := form.value != .absent

/-- The names of an option in a message. -/
def hint (form : OptionForm) : String :=
  let name := "'" ++ form.name ++ "'"
  match form.letter with
  | some c => name ++ " / '-" ++ c.toString ++ "'"
  | none => name

end OptionForm

def helpOption : OptionForm := ⟨"--help", none, .absent⟩

namespace CommandForm

def summary (form : CommandForm) : String :=
  "Usage: " ++ form.path ++ " [OPTIONS]"
    ++ (if form.operands.isEmpty then "" else " " ++ form.operands)

/-- Where to find more on a command. -/
def advice (form : CommandForm) : String := "Try '" ++ form.path ++ " --help' for help."

def helpText (form : CommandForm) : String :=
  let names := form.options.map fun o =>
    "  " ++ (o.letter.map fun c => "-" ++ c.toString ++ ", ").getD "" ++ o.name ++ "\n"
  form.summary ++ "\n\nOptions:\n" ++ String.join names

def optionNamed? (form : CommandForm) (name : String) : Option OptionForm :=
  form.options.find? fun o => o.name == name

def optionLettered? (form : CommandForm) (c : Char) : Option OptionForm :=
  form.options.find? fun o => o.letter == some c

end CommandForm

namespace UsageIssue

/-- What may have been meant instead. -/
def suggestion : List String → String
  | [] => ""
  | [name] => " Did you mean " ++ Text.quoted name ++ "?"
  | names => " (Did you mean one of: " ++ ", ".intercalate (names.map Text.quoted) ++ "?)"

def message : UsageIssue → String
  | .unknownOption name similar =>
    "No such option " ++ Text.quoted name ++ "." ++ suggestion similar
  | .unexpectedValue option => "Option " ++ Text.quoted option ++ " does not take a value."
  | .missingValue option => "Option " ++ Text.quoted option ++ " requires an argument."
  | .unknownCommand name similar =>
    "No such command " ++ Text.quoted name ++ "." ++ suggestion similar
  | .missingCommand => "Missing command."
  | .missingArgument name => "Missing argument '" ++ name ++ "'."
  | .extraArguments [argument] => "Got unexpected extra argument (" ++ argument ++ ")"
  | .extraArguments arguments =>
    "Got unexpected extra arguments (" ++ " ".intercalate arguments ++ ")"
  | .notAmong option value choices =>
    "Invalid value for " ++ option.hint ++ ": " ++ Text.quoted value ++ " is not one of "
      ++ ", ".intercalate (choices.map Text.quoted) ++ "."
  | .noNumber option value =>
    "Invalid value for " ++ option.hint ++ ": " ++ Text.quoted value ++ " is not a valid float."

/-- Whether the message is introduced by how the command is called. -/
def showsUsage : UsageIssue → Bool
  | .unexpectedValue _ | .missingValue _ => false
  | _ => true

/-- What is printed about a command line that cannot be used. -/
def report (form : CommandForm) (issue : UsageIssue) : String :=
  (if issue.showsUsage then form.summary ++ "\n" ++ form.advice ++ "\n\n" else "")
    ++ "Error: " ++ issue.message ++ "\n"

end UsageIssue

abbrev GivenOption := OptionForm × String

/-- The words of a command line, told apart. -/
structure SplitWords where
  /-- In the order of the command line. -/
  given : List GivenOption
  arguments : List String
deriving Repr, DecidableEq

namespace CommandForm

def takeValue (option : OptionForm) (spelling : String) (attached : Option String)
    (words : List String) : Except UsageIssue (GivenOption × List String) :=
  match attached, words with
  | some value, words => .ok ((option, value), words)
  | none, value :: words => .ok ((option, value), words)
  | none, [] => .error (.missingValue spelling)

/-- The options that the letters of a word stand for. The first that takes a value takes the rest
of the word. -/
def takeLetters (form : CommandForm) (words : List String) :
    List Char → Except UsageIssue (List GivenOption × List String)
  | [] => .ok ([], words)
  | c :: rest =>
    let spelling := String.ofList ['-', c]
    match form.optionLettered? c with
    | none => .error (.unknownOption spelling [])
    | some option =>
      if option.takesValue then do
        let attached := if rest.isEmpty then none else some (String.ofList rest)
        let (given, words) ← takeValue option spelling attached words
        return ([given], words)
      else do
        let (others, words) ← form.takeLetters words rest
        return ((option, "") :: others, words)

def cutWord (word : String) : String × Option String :=
  let name := word.toList.takeWhile (· != '=')
  match word.toList.drop name.length with
  | [] => (word, none)
  | _ :: value => (String.ofList name, some (String.ofList value))

/-- The options that a word with a dash stands for, and the words that are left. -/
def takeOption (form : CommandForm) (word : String) (words : List String) :
    Except UsageIssue (List GivenOption × List String) :=
  let (name, attached) := cutWord word
  match form.optionNamed? name with
  | some option =>
    if option.takesValue then do
      let (given, words) ← takeValue option name attached words
      return ([given], words)
    else match attached with
      | some _ => .error (.unexpectedValue name)
      | none => .ok ([(option, "")], words)
  | none =>
    if word.startsWith "--" then
      .error (.unknownOption name (Text.similarTo name (form.options.map OptionForm.name)))
    else form.takeLetters words (word.toList.drop 1)

/-- Whether a word stands for options: it has a dash and more. -/
def isOptionWord (word : String) : Bool := word.startsWith "-" && word != "-"

/-- Tells the words apart, if there are at most `count` of them. After two dashes, and where
options may not come after arguments from the first argument on, all are arguments. -/
def splitUpTo (form : CommandForm) : Nat → List String → Except UsageIssue SplitWords
  | 0, words => .ok ⟨[], words⟩
  | _, [] => .ok ⟨[], []⟩
  | count + 1, word :: words =>
    if word == "--" then .ok ⟨[], words⟩
    else if isOptionWord word then do
      let (given, words) ← form.takeOption word words
      let others ← form.splitUpTo count words
      return { others with given := given ++ others.given }
    else if form.interspersed then do
      let others ← form.splitUpTo count words
      return { others with arguments := word :: others.arguments }
    else .ok ⟨[], word :: words⟩

def split (form : CommandForm) (words : List String) : Except UsageIssue SplitWords :=
  form.splitUpTo words.length words

end CommandForm

namespace SplitWords

def value? (words : SplitWords) (name : String) : Option String :=
  (words.given.reverse.find? fun g => g.1.name == name).map (·.2)

def has (words : SplitWords) (name : String) : Bool := (words.value? name).isSome

/-- The options that are given, each once, where it is given first. -/
def givenForms (words : SplitWords) : List OptionForm :=
  words.given.foldl (fun seen g => if seen.contains g.1 then seen else seen ++ [g.1]) []

end SplitWords

end ClusterDiscovery
