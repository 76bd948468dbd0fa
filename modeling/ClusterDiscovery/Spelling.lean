import ClusterDiscovery.Datum
import ClusterDiscovery.Number.Decimal
import ClusterDiscovery.Text.Class

/-! # Spelling of values

How integers, complex numbers, bytes and sequences of parts are written in texts, and data with
them. The plain text of data is what a message shows; texts stand for themselves. Within lists and
mappings every part is quoted. -/

namespace ClusterDiscovery

open ClusterDiscovery.Number ClusterDiscovery.Text

/-! ## Plain values -/

/-- Integers with more digits than this are not written out. -/
def maxWrittenDigits : Nat := 4300

def writableInt (i : Int) : Bool := i.natAbs < Nat.pow 10 maxWrittenDigits

def displayInt (i : Int) : Except Fault String :=
  if writableInt i then pure (intText i) else throw .badValue

/-- A double inside a complex number, without the fraction of a whole number. -/
def complexPart (x : Float) : String :=
  let t := floatText x
  match t.toList.reverse with
  | '0' :: '.' :: rest => String.ofList rest.reverse
  | _ => t

def complexText (re im : Float) : String :=
  if re == 0.0 && !isNegative re then complexPart im ++ "j"
  else
    let sign := if isNegative im then "" else "+"
    "(" ++ complexPart re ++ sign ++ complexPart im ++ "j)"

def byteChars (quote : Char) (b : UInt8) : List Char :=
  let c := Char.ofNat b.toNat
  if c == quote || c == '\\' then ['\\', c]
  else if c == '\n' then ['\\', 'n']
  else if c == '\r' then ['\\', 'r']
  else if c == '\t' then ['\\', 't']
  else if b < 0x20 || b ≥ 0x7F then '\\' :: 'x' :: hexDigits 2 b.toNat
  else [c]

def bytesText (b : List UInt8) : String :=
  let quote := quoteFor (b.map fun x => Char.ofNat x.toNat)
  String.ofList ('b' :: quote :: b.flatMap (byteChars quote) ++ [quote])

def commaSeparated (parts : List String) : String := String.intercalate ", " parts

def displayTuple (parts : List String) : String :=
  match parts with
  | [one] => "(" ++ one ++ ",)"
  | parts => "(" ++ commaSeparated parts ++ ")"

/-! ## Data -/

namespace Datum

mutual

def quotedText : Datum → Except Fault String
  | .null => .ok "None"
  | .bool b => .ok (if b then "True" else "False")
  | .int i => displayInt i
  | .float x => .ok (floatText x)
  | .text s => .ok (quoted s)
  | .bytes b => .ok (bytesText b)
  | .list items => do return "[" ++ commaSeparated (← quotedTexts items) ++ "]"
  | .tuple items => do return displayTuple (← quotedTexts items)
  | .map entries => do return "\x7b" ++ commaSeparated (← quotedEntries entries) ++ "\x7d"
  | .undefined => .ok "Undefined"
  | .foreign type => .ok ("<" ++ type ++ " object>")

def quotedTexts : List Datum → Except Fault (List String)
  | [] => .ok []
  | d :: rest => do return (← quotedText d) :: (← quotedTexts rest)

def quotedEntries : List (Datum × Datum) → Except Fault (List String)
  | [] => .ok []
  | (k, v) :: rest => do
    return ((← quotedText k) ++ ": " ++ (← quotedText v)) :: (← quotedEntries rest)

end

def plainText : Datum → Except Fault String
  | .text s => .ok s
  | d => quotedText d

end Datum

end ClusterDiscovery
