import ClusterDiscovery.Yaml.Flow

/-! # Reading YAML

A document in block style: mappings and lists by indentation, with values in flow style on their
lines. A value in brackets or braces may run over several lines. -/

namespace ClusterDiscovery.Yaml

structure Line where
  indent : Nat
  content : List Char

/-- A line up to its comment. A number sign starts one at the start or after a blank, but not
between quotes. -/
def dropComment (quote : Option Char) (afterSpace : Bool) : List Char → List Char
  | [] => []
  | c :: rest =>
    match quote with
    | some q => c :: dropComment (if c == q then none else some q) false rest
    | none =>
      if c == '#' && afterSpace then []
      else if (c == '"' || c == '\'') && afterSpace then c :: dropComment (some c) false rest
      else c :: dropComment none (isSpace c || isFlowMark c || c == ':') rest

def openBrackets (quote : Option Char) (opened : Int) : List Char → Int
  | [] => opened
  | c :: rest =>
    match quote with
    | some q => openBrackets (if c == q then none else some q) opened rest
    | none =>
      if c == '"' || c == '\'' then openBrackets (some c) opened rest
      else if c == '[' || c == '{' then openBrackets none (opened + 1) rest
      else if c == ']' || c == '}' then openBrackets none (opened - 1) rest
      else openBrackets none opened rest

def lineOf (s : List Char) : Option Line :=
  let bare := (dropComment none true s).reverse.dropWhile isSpace |>.reverse
  let indent := (bare.takeWhile (· == ' ')).length
  let content := bare.drop indent
  if content.isEmpty then none else some ⟨indent, content⟩

/-- Joins the lines over which brackets are open. -/
def joinOpen : Nat → List Line → List Line
  | 0, lines => lines
  | _, [] => []
  | _, [line] => [line]
  | fuel + 1, line :: next :: rest =>
    if openBrackets none 0 line.content > 0 then
      joinOpen fuel (⟨line.indent, line.content ++ ' ' :: next.content⟩ :: rest)
    else line :: joinOpen fuel (next :: rest)

def isMarker (line : Line) : Bool :=
  line.indent == 0 && (line.content == "---".toList || line.content == "...".toList)

def linesOf (text : String) : List Line :=
  let raw := (text.splitOn "\n").map fun s =>
    (s.toList.reverse.dropWhile (· == '\r')).reverse
  let lines := (raw.filterMap lineOf).filter fun line => !isMarker line
  joinOpen lines.length lines

def takeKey? (s : List Char) : Option (Datum × List Char) := do
  match s.head? with
  | some '[' => none
  | some '{' => none
  | _ =>
    let (key, _, after) ← takeScalar? (s.length + 1) s
    match skipSpace after with
    | ':' :: rest =>
      if rest.isEmpty || rest.head?.any isSpace then some (key, skipSpace rest) else none
    | _ => none

/-- What a line holds after the dash of a list item, moved to its own column. -/
def itemLine? (line : Line) : Option (Option Line) :=
  match line.content with
  | ['-'] => some none
  | '-' :: c :: rest =>
    if isSpace c then
      let gap := (rest.takeWhile isSpace).length
      let content := rest.drop gap
      some (if content.isEmpty then none else some ⟨line.indent + 2 + gap, content⟩)
    else none
  | _ => none

/-- Whether a plain text looks like a key with a value, which may not stand inside a value. -/
def holdsKey : List Char → Bool
  | [] => false
  | ':' :: rest => rest.isEmpty || rest.head?.any isSpace || holdsKey rest
  | _ :: rest => holdsKey rest

def inlineValue? (s : List Char) : Option Datum := do
  match s.head? with
  | some c =>
    if c == '[' || c == '{' || c == '"' || c == '\'' then
      let (d, after) ← takeFlow? (s.length + 1) s
      if (skipSpace after).isEmpty then some d else none
    else if c == '%' || c == '@' || holdsKey s then none
    else some (plainScalar (trimSpace s))
  | none => some .null

mutual

/-- The value of the lines that are indented at least that far, and the lines after it. -/
def takeNode? : Nat → Nat → List Line → Option (Datum × List Line)
  | 0, _, _ => none
  | _, _, [] => some (.null, [])
  | fuel + 1, least, line :: rest =>
    if line.indent < least then some (.null, line :: rest)
    else if (itemLine? line).isSome then do
      let (items, after) ← takeList? fuel line.indent (line :: rest)
      return (.list items, after)
    else if (takeKey? line.content).isSome then do
      let (entries, after) ← takeMapping? fuel line.indent [] (line :: rest)
      return (.map entries, after)
    else do return (← inlineValue? line.content, rest)

def takeList? : Nat → Nat → List Line → Option (List Datum × List Line)
  | 0, _, _ => none
  | _, _, [] => some ([], [])
  | fuel + 1, indent, line :: rest =>
    if line.indent != indent then
      if line.indent < indent then some ([], line :: rest) else none
    else match itemLine? line with
      | none => some ([], line :: rest)
      | some item => do
        let lines := match item with
          | some first => first :: rest
          | none => rest
        let (d, after) ← takeNode? fuel (indent + 1) lines
        let (items, after) ← takeList? fuel indent after
        return (d :: items, after)

def takeMapping? : Nat → Nat → List (Datum × Datum) → List Line →
    Option (List (Datum × Datum) × List Line)
  | 0, _, _, _ => none
  | _, _, entries, [] => some (entries, [])
  | fuel + 1, indent, entries, line :: rest =>
    if line.indent != indent then
      if line.indent < indent then some (entries, line :: rest) else none
    else do
      let (key, text) ← takeKey? line.content
      let (value, after) ←
        if !text.isEmpty then do pure (← inlineValue? text, rest)
        else match rest with
          | next :: _ =>
            if next.indent == indent && (itemLine? next).isSome then do
              let (items, after) ← takeList? fuel indent rest
              pure (.list items, after)
            else takeNode? fuel (indent + 1) rest
          | [] => pure (.null, [])
      takeMapping? fuel indent (Datum.put entries key value) after

end

def read? (text : String) : Option Datum := do
  let lines := linesOf text
  let size := text.toList.length + lines.length + 2
  let (d, after) ← takeNode? size 0 lines
  if after.isEmpty then some d else none

end ClusterDiscovery.Yaml
