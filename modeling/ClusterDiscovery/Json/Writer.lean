import ClusterDiscovery.Datum
import ClusterDiscovery.Number.Decimal
import ClusterDiscovery.Text.Class

/-! # Writing JSON

Data as JSON texts, on one line or with an indentation. Fields are written in their order. -/

namespace ClusterDiscovery.Json

open ClusterDiscovery.Number ClusterDiscovery.Text

/-! ## Strings

Characters beyond ASCII may be kept, or be written as escapes, with a surrogate pair beyond the
basic plane. -/

def unitEscape (n : Nat) : List Char := '\\' :: 'u' :: hexDigits 4 n

def escapedChar (asciiOnly : Bool) (c : Char) : List Char :=
  match c with
  | '"' => ['\\', '"']
  | '\\' => ['\\', '\\']
  | '\n' => ['\\', 'n']
  | '\r' => ['\\', 'r']
  | '\t' => ['\\', 't']
  | c =>
    let n := c.toNat
    if n == 0x08 then ['\\', 'b']
    else if n == 0x0C then ['\\', 'f']
    else if n < 0x20 then unitEscape n
    else if n < 0x7F || !asciiOnly then [c]
    else if n < 0x10000 then unitEscape n
    else unitEscape (0xD800 + (n - 0x10000) / 0x400) ++ unitEscape (0xDC00 + (n - 0x10000) % 0x400)

def string (asciiOnly : Bool) (s : String) : String :=
  String.ofList ('"' :: s.toList.flatMap (escapedChar asciiOnly) ++ ['"'])

/-! ## Data -/

structure Style where
  asciiOnly : Bool
  /-- The number of blanks of one level, or everything on one line. -/
  indent : Option Nat

def floatWord (x : Float) : String :=
  if x.isNaN then "NaN"
  else if isFinite x then floatText x
  else if isNegative x then "-Infinity" else "Infinity"

def Style.lineBreak (style : Style) (level : Nat) : String :=
  match style.indent with
  | none => ""
  | some n => "\n" ++ String.ofList (List.replicate (n * level) ' ')

def Style.enclose (style : Style) (level : Nat) (opening closing : String)
    (parts : List String) : String :=
  if parts.isEmpty then opening ++ closing
  else
    let separator := if style.indent.isNone then ", " else "," ++ style.lineBreak (level + 1)
    opening ++ style.lineBreak (level + 1) ++ String.intercalate separator parts
      ++ style.lineBreak level ++ closing

def keyText : Datum → String
  | .text s => s
  | .null => "null"
  | .bool b => if b then "true" else "false"
  | .int i => intText i
  | .float x => floatWord x
  | _ => ""

mutual

def writeAt (style : Style) (level : Nat) : Datum → String
  | .null => "null"
  | .bool b => if b then "true" else "false"
  | .int i => intText i
  | .float x => floatWord x
  | .text s => string style.asciiOnly s
  | .list items => style.enclose level "[" "]" (writeItems style (level + 1) items)
  | .tuple items => style.enclose level "[" "]" (writeItems style (level + 1) items)
  | .map entries => style.enclose level "\x7b" "\x7d" (writeFields style (level + 1) entries)
  | _ => "null"

def writeItems (style : Style) (level : Nat) : List Datum → List String
  | [] => []
  | d :: rest => writeAt style level d :: writeItems style level rest

def writeFields (style : Style) (level : Nat) : List (Datum × Datum) → List String
  | [] => []
  | (k, d) :: rest =>
    (string style.asciiOnly (keyText k) ++ ": " ++ writeAt style level d)
      :: writeFields style level rest

end

def write (style : Style) (d : Datum) : String := writeAt style 0 d

end ClusterDiscovery.Json
