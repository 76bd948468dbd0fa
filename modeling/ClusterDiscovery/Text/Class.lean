import ClusterDiscovery.Text.ClassRanges

/-! # Characters

Letters, numerals, white space and the like, over all of Unicode. Every class is a union or a
difference of range tables. What cannot be printed is spelled out where a text is quoted. -/

namespace ClusterDiscovery.Text

/-- Membership of a character in a table of closed ranges. -/
def inRanges (ranges : List (Nat × Nat)) (c : Char) : Bool :=
  ranges.any fun (first, last) => first ≤ c.toNat && c.toNat ≤ last

def isLetter (c : Char) : Bool := inRanges ClassRanges.letters c

def isDecimalDigit (c : Char) : Bool := inRanges ClassRanges.decimalDigits c

/-- Decimal digits and digit-like signs such as superscripts. -/
def isDigit (c : Char) : Bool := isDecimalDigit c || inRanges ClassRanges.otherDigits c

/-- Any character with a numeric value. -/
def isNumeral (c : Char) : Bool :=
  isDigit c || inRanges ClassRanges.otherNumerals c || inRanges ClassRanges.numeralLetters c

def isAlphanumeric (c : Char) : Bool := isLetter c || isNumeral c

/-- The characters of a word: letters, numerals and the underscore. -/
def isWordPart (c : Char) : Bool := c == '_' || isAlphanumeric c

def isBlank (c : Char) : Bool := inRanges ClassRanges.blanks c

def isPrintable (c : Char) : Bool := inRanges ClassRanges.printable c

def startsIdentifier (c : Char) : Bool :=
  (isLetter c && !inRanges ClassRanges.nonIdentifierLetters c)
    || inRanges ClassRanges.identifierStarts c

def continuesIdentifier (c : Char) : Bool :=
  (isAlphanumeric c && !inRanges ClassRanges.nonIdentifierParts c)
    || inRanges ClassRanges.identifierParts c

/-- A text is an identifier when it is not empty and each character may stand in its place. -/
def isIdentifier : List Char → Bool
  | [] => false
  | c :: rest => startsIdentifier c && rest.all continuesIdentifier

/-- The value of a decimal digit: its distance from the zero of its range, counted in tens. -/
def decimalValue? (c : Char) : Option Nat :=
  (ClassRanges.decimalDigits.find? fun (first, last) =>
    first ≤ c.toNat && c.toNat ≤ last).map fun (first, _) => (c.toNat - first) % 10

/-- The characters that end a line. A carriage return with a line feed counts as one end. -/
def isLineBreak (c : Char) : Bool :=
  [0x0A, 0x0B, 0x0C, 0x0D, 0x1C, 0x1D, 0x1E, 0x85, 0x2028, 0x2029].contains c.toNat

/-! ## Quoted text

A text between quotes, with a backslash before everything that could not stand there. The single
quote is preferred; the double quote is taken when the text holds single quotes only. -/

/-- The hexadecimal digits of a number in lower case, padded with zeros to a width. -/
def hexDigits (width n : Nat) : List Char :=
  let digits := Nat.toDigits 16 n
  List.replicate (width - digits.length) '0' ++ digits

def quoteFor (s : List Char) : Char :=
  if s.contains '\'' && !s.contains '"' then '"' else '\''

/-- How one character stands between quotes. -/
def quotedChar (quote c : Char) : List Char :=
  if c == quote || c == '\\' then ['\\', c]
  else if c == '\n' then ['\\', 'n']
  else if c == '\r' then ['\\', 'r']
  else if c == '\t' then ['\\', 't']
  else if isPrintable c then [c]
  else if c.toNat < 0x100 then '\\' :: 'x' :: hexDigits 2 c.toNat
  else if c.toNat < 0x10000 then '\\' :: 'u' :: hexDigits 4 c.toNat
  else '\\' :: 'U' :: hexDigits 8 c.toNat

def quotedChars (s : List Char) : List Char :=
  let quote := quoteFor s
  quote :: s.flatMap (quotedChar quote) ++ [quote]

def quoted (s : String) : String := String.ofList (quotedChars s.toList)

end ClusterDiscovery.Text
