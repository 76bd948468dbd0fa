import ClusterDiscovery.Datum
import ClusterDiscovery.Number.Numeral
import ClusterDiscovery.Text.CharacterNames
import ClusterDiscovery.Text.Class
import ClusterDiscovery.Text.Pieces

/-! # Tokens

An expression is cut into tokens from left to right, and only as far as the parser looks: a place
that cannot be read is an error when the parser reaches it. Positions count characters of the text
with line ends made uniform. -/

namespace ClusterDiscovery.Expression

open ClusterDiscovery.Text ClusterDiscovery.Number

/-- What is wrong with the text of an expression. -/
inductive SyntaxIssue where
  | unexpectedCharacter (c : Char) (position : Nat)
  | unexpectedBracket (found : Char)
  | mismatchedBracket (found expected : Char)
  | invalidIdentifier
  /-- An escape inside a text that cannot be read. -/
  | badEscape (reason : String)
  | unexpectedToken (description : String)
  | expectedToken (expected found : String)
  | expectedAtEnd (expected : String)
  | expectedNameOrNumber
  | badCall
  | chainedTests
  | trailingTokens
  | noSuchFilter (name : String)
  | noSuchTest (name : String)
  /-- The text is well formed but means nothing: the fault that compiling it meets. -/
  | fault (f : Fault)
deriving Repr, DecidableEq

namespace SyntaxIssue

def message : SyntaxIssue → String
  | unexpectedCharacter c position =>
    "unexpected char " ++ quoted (String.singleton c) ++ " at " ++ toString position
  | unexpectedBracket found => "unexpected '" ++ String.singleton found ++ "'"
  | mismatchedBracket found expected =>
    "unexpected '" ++ String.singleton found ++ "', expected '" ++ String.singleton expected ++ "'"
  | invalidIdentifier => "Invalid character in identifier"
  | badEscape reason => reason
  | unexpectedToken description => "unexpected " ++ quoted description
  | expectedToken expected found =>
    "expected token " ++ quoted expected ++ ", got " ++ quoted found
  | expectedAtEnd expected => "unexpected end of template, expected " ++ quoted expected ++ "."
  | expectedNameOrNumber => "expected name or number"
  | badCall => "invalid syntax for function call expression"
  | chainedTests => "You cannot chain multiple tests with is"
  | trailingTokens => "chunk after expression"
  | noSuchFilter name => "No filter named " ++ quoted name ++ "."
  | noSuchTest name => "No test named " ++ quoted name ++ "."
  | fault _ => ""

end SyntaxIssue

inductive Token where
  | name (s : String)
  | text (s : String)
  | integer (n : Nat)
  | decimal (x : Float)
  | symbol (s : String)
  /-- The mark that ends an expression inside a larger text. -/
  | close
  | finish
  /-- A place that cannot be read. -/
  | broken (issue : SyntaxIssue)

namespace Token

def describe : Token → String
  | name s => s
  | text _ => "string"
  | integer _ => "integer"
  | decimal _ => "float"
  | symbol s => s
  | close => "end of print statement"
  | finish => "end of template"
  | broken _ => ""

def isSymbol (t : Token) (s : String) : Bool :=
  match t with
  | symbol r => r == s
  | _ => false

def isName (t : Token) (s : String) : Bool :=
  match t with
  | name r => r == s
  | _ => false

end Token

/-! ## Texts and their escapes -/

/-- Line ends of all kinds become line feeds. -/
def uniformLines : List Char → List Char
  | '\r' :: '\n' :: rest => '\n' :: uniformLines rest
  | '\r' :: rest => '\n' :: uniformLines rest
  | c :: rest => c :: uniformLines rest
  | [] => []

def isOctal (c : Char) : Bool := '0' ≤ c && c ≤ '7'

def hexValue? (digits : List Char) : Option Nat :=
  digits.foldlM (fun n c => do
    let d ← digitValue? c
    if d < 16 then some (n * 16 + d) else none) 0

/-- The character of a code point. Half of a surrogate pair is no character; one of the last
private plane stands for it, which equals nothing else. -/
def charAt (n : Nat) : Char :=
  if 0xD800 ≤ n && n < 0xE000 then Char.ofNat (0x100000 + n) else Char.ofNat n

/-- The code point that a hexadecimal escape of a fixed width names, and the rest. -/
def takeHex (width : Nat) (mark : Char) (s : List Char) :
    Except SyntaxIssue (Char × List Char) :=
  let digits := s.take width
  match digits.length == width, hexValue? digits with
  | true, some n =>
    if n < 0x110000 then pure (charAt n, s.drop width)
    else throw (.badEscape "illegal Unicode character")
  | _, _ =>
    let pattern := String.ofList ('\\' :: mark :: List.replicate width 'X')
    throw (.badEscape ("truncated " ++ pattern ++ " escape"))

/-- The character that a name between braces calls, and the rest. -/
def takeNamed (s : List Char) : Except SyntaxIssue (Char × List Char) :=
  let malformed := SyntaxIssue.badEscape "malformed \\N character escape"
  match s with
  | '\x7b' :: rest =>
    let name := rest.takeWhile (· != '\x7d')
    match name.isEmpty, rest.dropWhile (· != '\x7d') with
    | false, _ :: after =>
      match characterNamed? (String.ofList name) with
      | some c => pure (c, after)
      | none => throw (.badEscape "unknown Unicode character name")
    | _, _ => throw malformed
  | _ => throw malformed

/-- Reads the escapes of a text. An unknown escape stands for itself. A fuel of the length
suffices. -/
def readEscapes : Nat → List Char → Except SyntaxIssue (List Char)
  | 0, _ => pure []
  | _, [] => pure []
  | fuel + 1, '\\' :: c :: rest =>
    let plain (d : Char) : Except SyntaxIssue (List Char) := do
      return d :: (← readEscapes fuel rest)
    let hex (width : Nat) : Except SyntaxIssue (List Char) := do
      let (d, rest) ← takeHex width c rest
      return d :: (← readEscapes fuel rest)
    match c with
    | '\n' => readEscapes fuel rest
    | '\\' | '\'' | '"' => plain c
    | 'a' => plain '\x07'
    | 'b' => plain '\x08'
    | 'f' => plain '\x0c'
    | 'n' => plain '\n'
    | 'r' => plain '\r'
    | 't' => plain '\t'
    | 'v' => plain '\x0b'
    | 'x' => hex 2
    | 'u' => hex 4
    | 'U' => hex 8
    | 'N' => do
      let (d, rest) ← takeNamed rest
      return d :: (← readEscapes fuel rest)
    | c =>
      if isOctal c then do
        let digits := c :: (rest.take 2).takeWhile isOctal
        let n := digits.foldl (fun n d => n * 8 + (d.toNat - '0'.toNat)) 0
        return Char.ofNat n :: (← readEscapes fuel (rest.drop (digits.length - 1)))
      else do return '\\' :: c :: (← readEscapes fuel rest)
  | fuel + 1, c :: rest => do return c :: (← readEscapes fuel rest)

/-- Characters beyond ASCII as the escapes that name them. -/
def spelledOut (s : List Char) : List Char :=
  s.flatMap fun c =>
    if c.toNat < 0x80 then [c]
    else if c.toNat < 0x100 then '\\' :: 'x' :: hexDigits 2 c.toNat
    else if c.toNat < 0x10000 then '\\' :: 'u' :: hexDigits 4 c.toNat
    else '\\' :: 'U' :: hexDigits 8 c.toNat

/-- The text between quotes. Escapes are read after everything beyond ASCII has become one, so a
backslash before such a character is a doubled backslash. -/
def textContent (s : List Char) : Except SyntaxIssue String := do
  let spelled := spelledOut s
  return String.ofList (← readEscapes spelled.length spelled)

def takeQuoted (quote : Char) : List Char → Option (List Char × List Char)
  | [] => none
  | ['\\'] => none
  | '\\' :: c :: rest => (takeQuoted quote rest).map fun (s, r) => ('\\' :: c :: s, r)
  | c :: rest =>
    if c == quote then some ([], rest)
    else (takeQuoted quote rest).map fun (s, r) => (c :: s, r)

/-! ## Numbers -/

/-- The longest run of digits in which single underscores may stand before a digit. -/
def takeRun (accept : Char → Bool) : List Char → List Char × List Char
  | '_' :: c :: rest =>
    if accept c then
      let (run, rest) := takeRun accept rest
      ('_' :: c :: run, rest)
    else ([], '_' :: c :: rest)
  | c :: rest =>
    if accept c then
      let (run, rest) := takeRun accept rest
      (c :: run, rest)
    else ([], c :: rest)
  | [] => ([], [])

/-- A run of decimal digits that starts with a digit. -/
def takeDecimalRun (s : List Char) : List Char × List Char :=
  match s with
  | c :: _ => if isDecimalDigit c then takeRun isDecimalDigit s else ([], s)
  | [] => ([], [])

def takeExponent? : List Char → Option (List Char × List Char)
  | mark :: rest =>
    if mark == 'e' || mark == 'E' then
      let (sign, digits) := match rest with
        | '+' :: r => (['+'], r)
        | '-' :: r => (['-'], r)
        | r => ([], r)
      let (run, rest) := takeDecimalRun digits
      if run.isEmpty then none else some (mark :: sign ++ run, rest)
    else none
  | [] => none

/-- A number with a fraction, an exponent, or both. -/
def takeDecimal? (s : List Char) : Option (List Char × List Char) :=
  let (whole, rest) := takeDecimalRun s
  if whole.isEmpty then none
  else
    let fraction? : Option (List Char × List Char) :=
      match rest with
      | '.' :: digits =>
        let (run, rest) := takeDecimalRun digits
        if run.isEmpty then none else some ('.' :: run, rest)
      | _ => none
    match fraction? with
    | some (fraction, rest') =>
      match takeExponent? rest' with
      | some (exponent, rest'') => some (whole ++ fraction ++ exponent, rest'')
      | none => some (whole ++ fraction, rest')
    | none => (takeExponent? rest).map fun (exponent, rest') => (whole ++ exponent, rest')

def oneOf (set : String) (c : Char) : Bool := set.toList.contains c

/-- A number in a base that a mark announces. -/
def takeMarked? (s : List Char) : Option (List Char × List Char) :=
  match s with
  | '0' :: mark :: rest =>
    let digits? : Option (Char → Bool) :=
      if oneOf "bB" mark then some (oneOf "01")
      else if oneOf "oO" mark then some (oneOf "01234567")
      else if oneOf "xX" mark then
        some fun c => isDecimalDigit c || oneOf "abcdefABCDEF" c
      else none
    match digits? with
    | none => none
    | some accept =>
      let (run, rest) := takeRun accept rest
      if run.isEmpty then none else some ('0' :: mark :: run, rest)
  | _ => none

def takeInteger? (s : List Char) : Option (List Char × List Char) :=
  match takeMarked? s with
  | some found => some found
  | none =>
    match s with
    | '0' :: _ => some (takeRun (· == '0') s)
    | c :: _ => if '1' ≤ c && c ≤ '9' then some (takeRun isDecimalDigit s) else none
    | [] => none

def withoutUnderscores (s : List Char) : List Char := s.filter (· != '_')

def decimalToken (s : List Char) : Token :=
  if s.all fun c => c.toNat < 0x80 then
    match readFloat? (withoutUnderscores s) with
    | some x => .decimal x
    | none => .broken (.fault .invalidForm)
  else .broken (.fault .invalidForm)

def integerToken (s : List Char) : Token :=
  match readInt? 0 (withoutUnderscores s) with
  | some i =>
    if i.natAbs < Nat.pow 10 4300 then .integer i.natAbs else .broken (.fault .badValue)
  | none => .broken (.fault .badValue)

/-! ## The token sequence -/

/-- Letters, numerals, the underscore, and marks that may continue an identifier. -/
def isNamePart (c : Char) : Bool := isWordPart c || continuesIdentifier c

def longSymbols : List String := ["//", "**", "==", "!=", ">=", "<="]

def shortSymbols : List Char := "+-/*%~[]()\x7b\x7d><=.:|,;".toList

def takeSymbol? (s : List Char) : Option (String × List Char) :=
  match longSymbols.find? fun symbol => symbol.toList.isPrefixOf s with
  | some symbol => some (symbol, s.drop 2)
  | none =>
    match s with
    | c :: rest => if shortSymbols.contains c then some (String.singleton c, rest) else none
    | [] => none

def closing? (c : String) : Option Char :=
  if c == "(" then some ')' else if c == "[" then some ']'
  else if c == "\x7b" then some '\x7d' else none

/-- The brackets that are open after a symbol, innermost first. -/
def trackBrackets (symbol : String) (opened : List Char) : Except SyntaxIssue (List Char) :=
  match closing? symbol with
  | some c => pure (c :: opened)
  | none =>
    match symbol.toList with
    | [c] =>
      if c == ')' || c == ']' || c == '\x7d' then
        match opened with
        | [] => throw (.unexpectedBracket c)
        | expected :: rest =>
          if c == expected then pure rest else throw (.mismatchedBracket c expected)
      else pure opened
    | _ => pure opened

def isCloseMark (s : List Char) : Bool :=
  ['\x7d', '\x7d'].isPrefixOf s || ['-', '\x7d', '\x7d'].isPrefixOf s

/-- The tokens of a text. `afterPoint` says that a point stands directly before it, `position`
where it starts. Every step takes a character, so a fuel of one more than the length suffices. -/
def tokensFrom : Nat → List Char → Bool → Nat → List Char → List Token
  | 0, _, _, _, _ => [.finish]
  | fuel + 1, opened, afterPoint, position, s =>
    let go (opened : List Char) (afterPoint : Bool) (rest : List Char) : List Token :=
      tokensFrom fuel opened afterPoint (position + (s.length - rest.length)) rest
    match s with
    | [] => [.finish]
    | c :: _ =>
      if opened.isEmpty && isCloseMark s then [.close, .finish]
      else if isBlank c then go opened false (s.dropWhile isBlank)
      else
        match if afterPoint then none else takeDecimal? s with
        | some (number, rest) => decimalToken number :: go opened false rest
        | none =>
          match takeInteger? s with
          | some (number, rest) => integerToken number :: go opened false rest
          | none =>
            if isNamePart c then
              let name := s.takeWhile isNamePart
              (if isIdentifier name then .name (String.ofList name)
                else .broken .invalidIdentifier) :: go opened false (s.dropWhile isNamePart)
            else
              match if c == '\'' || c == '"' then takeQuoted c (s.drop 1) else none with
              | some (content, rest) =>
                (match textContent content with
                  | .ok t => .text t
                  | .error issue => .broken issue) :: go opened false rest
              | none =>
                match takeSymbol? s with
                | none => [.broken (.unexpectedCharacter c position)]
                | some (symbol, rest) =>
                  match trackBrackets symbol opened with
                  | .error issue => [.broken issue]
                  | .ok opened => .symbol symbol :: go opened (symbol == ".") rest

def tokens (s : String) : List Token :=
  let chars := uniformLines s.toList
  tokensFrom (chars.length + 1) [] false 0 chars

end ClusterDiscovery.Expression
