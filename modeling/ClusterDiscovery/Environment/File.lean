import ClusterDiscovery.Text.Case
import ClusterDiscovery.Text.Class
import ClusterDiscovery.Text.Pieces

/-! # Environment

The variables of a process, and the text of a file that holds more of them. The names of
variables are compared without regard to letter case; of two that agree the last one counts.

A variables file has an assignment on each line: `NAME=value`, with an optional `export` in front.
Values may stand between quotes, comments start with a number sign, and `${NAME}` in a value
stands for another variable. A line that has no such form is skipped. -/

namespace ClusterDiscovery

/-- A variable; in a file one may be named without a value. -/
abbrev Variable := String × Option String

structure Environment where
  values : List (String × String)
  fileText : Option String

namespace Environment

def empty : Environment := ⟨[], none⟩

def exactly? (env : Environment) (name : String) : Option String :=
  (env.values.reverse.find? fun v => v.1 == name).map (·.2)

/-- The value of the last variable with a name, letter case aside. -/
def valueOf? (given : List Variable) (name : String) : Option String :=
  (given.reverse.find? fun v => Text.lowerCase v.1 == Text.lowerCase name).bind (·.2)

def processVariables (env : Environment) : List Variable :=
  env.values.map fun (name, value) => (name, some value)

end Environment

end ClusterDiscovery

/-! ## Variables files -/

namespace ClusterDiscovery.VariablesFile

open ClusterDiscovery.Text

def isLineEnd (c : Char) : Bool := c == '\n' || c == '\r'

/-- Blanks that do not end a line. -/
def isInnerBlank (c : Char) : Bool := isBlank c && !isLineEnd c

/-- Every line ends with a line feed. -/
def plainLineEnds : List Char → List Char
  | '\r' :: '\n' :: rest => '\n' :: plainLineEnds rest
  | '\r' :: rest => '\n' :: plainLineEnds rest
  | c :: rest => c :: plainLineEnds rest
  | [] => []

def skipExport (s : List Char) : List Char :=
  if "export".toList.isPrefixOf s then
    match s.drop 6 with
    | c :: rest => if isInnerBlank c then rest.dropWhile isInnerBlank else s
    | [] => s
  else s

/-- The position of the quote that ends a value: the first one without a backslash before it, or
else the last one. -/
def closingQuote? (quote : Char) (s : List Char) : Option Nat :=
  let positions := (List.range s.length).filter fun i => s[i]? == some quote
  match positions.find? fun i => i == 0 || s[i - 1]? != some '\\' with
  | some i => some i
  | none => positions.getLast?

def escapeOf? (quote c : Char) : Option Char :=
  if c == '\\' then some '\\'
  else if c == '\'' then some '\''
  else if quote == '\'' then none
  else match c with
    | '"' => some '"'
    | 'a' => some '\x07'
    | 'b' => some '\x08'
    | 'f' => some '\x0c'
    | 'n' => some '\n'
    | 'r' => some '\r'
    | 't' => some '\t'
    | 'v' => some '\x0b'
    | _ => none

/-- The text between quotes. An unknown escape stands for itself. -/
def unescape (quote : Char) : List Char → List Char
  | '\\' :: c :: rest =>
    match escapeOf? quote c with
    | some d => d :: unescape quote rest
    | none => '\\' :: unescape quote (c :: rest)
  | c :: rest => c :: unescape quote rest
  | [] => []

/-- A value without quotes ends before a comment that follows a blank. -/
def dropComment : List Char → List Char
  | [] => []
  | c :: rest =>
    if isBlank c && (rest.dropWhile isBlank).head? == some '#' then [] else c :: dropComment rest

/-- The value at the start of a text, and the text after it. -/
def takeValue? (s : List Char) : Option (List Char × List Char) :=
  match s with
  | [] => some ([], [])
  | c :: rest =>
    if c == '\'' || c == '"' then
      (closingQuote? c rest).map fun i => (unescape c (rest.take i), rest.drop (i + 1))
    else if isLineEnd c then some ([], s)
    else
      let line := s.takeWhile (!isLineEnd ·)
      some (trimRightWhere isBlank (dropComment line), s.dropWhile (!isLineEnd ·))

/-- The name at the start of a text. A comment has none. -/
def takeName? (s : List Char) : Option (Option (List Char) × List Char) :=
  match s with
  | '#' :: _ => some (none, s)
  | '\'' :: rest =>
    let name := rest.takeWhile (· != '\'')
    match rest.dropWhile (· != '\'') with
    | _ :: after => if name.isEmpty then none else some (some name, after)
    | [] => none
  | s =>
    let isPart (c : Char) := c != '=' && c != '#' && !isBlank c
    let name := s.takeWhile isPart
    if name.isEmpty then none else some (some name, s.dropWhile isPart)

def takeLineEnd? (s : List Char) : Option (List Char) :=
  let s := s.dropWhile isInnerBlank
  let s := if s.head? == some '#' then s.dropWhile (!isLineEnd ·) else s
  match s with
  | [] => some []
  | c :: rest => if isLineEnd c then some rest else none

/-- What one line assigns, if anything, and the text after it. -/
structure Line where
  assigned : Option Variable
  rest : List Char

def restOfLine (s : List Char) : List Char := (s.dropWhile (!isLineEnd ·)).drop 1

def takeLine (s : List Char) : Line :=
  let s := skipExport s
  match takeName? s with
  | none => ⟨none, restOfLine s⟩
  | some (name, rest) =>
    let rest := rest.dropWhile isInnerBlank
    let finish (value : Option (List Char)) (rest : List Char) : Line :=
      match takeLineEnd? rest with
      | some after =>
        ⟨name.map fun n => (String.ofList n, value.map String.ofList), after⟩
      | none => ⟨none, restOfLine rest⟩
    match rest with
    | '=' :: after =>
      let after := after.dropWhile isInnerBlank
      match takeValue? after with
      | some (value, rest) => finish (some value) rest
      | none => ⟨none, restOfLine after⟩
    | rest => finish none rest

def assignments : Nat → List Char → List Variable
  | 0, _ => []
  | fuel + 1, s =>
    match s.dropWhile isBlank with
    | [] => []
    | s =>
      let line := takeLine s
      match line.assigned with
      | some v => v :: assignments fuel line.rest
      | none => assignments fuel line.rest

/-- A reference at the start of a text, after its opening: the name, the value to take in place of
a missing one, and the rest. -/
def takeReference? (s : List Char) : Option (String × String × List Char) :=
  let isNamePart (c : Char) := c != '}' && c != ':'
  let name := String.ofList (s.takeWhile isNamePart)
  match s.dropWhile isNamePart with
  | '}' :: rest => some (name, "", rest)
  | ':' :: '-' :: rest =>
    match rest.dropWhile (· != '}') with
    | _ :: after => some (name, String.ofList (rest.takeWhile (· != '}')), after)
    | [] => none
  | _ => none

def expand (valueOf : String → Option Variable) : Nat → List Char → List Char
  | 0, s => s
  | _, [] => []
  | fuel + 1, '$' :: '{' :: rest =>
    match takeReference? rest with
    | some (name, fallback, after) =>
      let value := match valueOf name with
        | some (_, value) => value.getD ""
        | none => fallback
      value.toList ++ expand valueOf fuel after
    | none => '$' :: expand valueOf fuel ('{' :: rest)
  | fuel + 1, c :: rest => c :: expand valueOf fuel rest

/-- Replaces the references in all values. A reference sees the variables before it in the file,
and after them those of the process. -/
def resolve (env : Environment) (resolved : List Variable) : List Variable → List Variable
  | [] => resolved
  | (name, value) :: rest =>
    let valueOf (reference : String) : Option Variable :=
      match resolved.reverse.find? fun v => v.1 == reference with
      | some v => some v
      | none => (env.exactly? reference).map fun value => (reference, some value)
    let value := value.map fun s =>
      String.ofList (expand valueOf (s.toList.length + 1) s.toList)
    resolve env (resolved ++ [(name, value)]) rest

end ClusterDiscovery.VariablesFile

namespace ClusterDiscovery

def Environment.fileVariables (env : Environment) : List Variable :=
  match env.fileText with
  | none => []
  | some text =>
    let s := VariablesFile.plainLineEnds text.toList
    VariablesFile.resolve env [] (VariablesFile.assignments (s.length + 1) s)

end ClusterDiscovery
