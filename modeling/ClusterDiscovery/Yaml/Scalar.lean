import ClusterDiscovery.Datum
import ClusterDiscovery.Number.Numeral

/-! # Plain scalars

What a scalar without quotes stands for: null, a truth value, a number, or its own text. -/

namespace ClusterDiscovery.Yaml

open ClusterDiscovery.Number

def nullWords : List String := ["", "~", "null", "Null", "NULL"]

def trueWords : List String :=
  ["yes", "Yes", "YES", "true", "True", "TRUE", "on", "On", "ON"]

def falseWords : List String :=
  ["no", "No", "NO", "false", "False", "FALSE", "off", "Off", "OFF"]

/-- The digits of an integer without the underscores between them. -/
def bareDigits (s : List Char) : List Char := s.filter (· != '_')

def isDigitOf (base : Nat) (c : Char) : Bool :=
  match digitValue? c with
  | some d => d < base
  | none => false

def valueIn (base : Nat) (digits : List Char) : Nat :=
  digits.foldl (fun n c => n * base + (digitValue? c).getD 0) 0

/-- An integer: in base ten, in base two or sixteen with a mark, or in base eight with a leading
zero. -/
def unsignedInt? (s : List Char) : Option Nat :=
  let within (base : Nat) (digits : List Char) : Option Nat :=
    let bare := bareDigits digits
    if !bare.isEmpty && bare.all (isDigitOf base) then some (valueIn base bare) else none
  match s with
  | ['0'] => some 0
  | '0' :: 'b' :: rest => within 2 rest
  | '0' :: 'x' :: rest => within 16 rest
  | '0' :: rest => within 8 rest
  | c :: rest => if c.isDigit then within 10 (c :: rest) else none
  | [] => none

def scalarInt? (s : List Char) : Option Int :=
  let (negative, rest) := takeSign s
  (unsignedInt? rest).map fun n => if negative then -(n : Int) else n

/-- A double: digits with a point, and perhaps an exponent with a sign. -/
def scalarFloat? (s : List Char) : Option Float :=
  let (negative, rest) := takeSign s
  let word := String.ofList rest
  if [".inf", ".Inf", ".INF"].contains word then some (withSign negative infinity)
  else if [".nan", ".NaN", ".NAN"].contains (String.ofList s) then some notANumber
  else
    let isPart (c : Char) := c.isDigit || c == '_'
    let whole := rest.takeWhile isPart
    match rest.dropWhile isPart with
    | '.' :: after =>
      let fraction := after.takeWhile isPart
      let signed := match after.dropWhile isPart with
        | [] => true
        | _ :: sign :: _ => sign == '+' || sign == '-'
        | _ => false
      let starts := match whole with
        | c :: _ => c.isDigit
        | [] => fraction.head?.any Char.isDigit
      if signed && starts then
        readUnsignedFloat? negative (bareDigits whole ++ '.' :: bareDigits fraction
          ++ after.dropWhile isPart)
      else none
    | _ => none

def plainScalar (s : List Char) : Datum :=
  let word := String.ofList s
  if nullWords.contains word then .null
  else if trueWords.contains word then .bool true
  else if falseWords.contains word then .bool false
  else match scalarInt? s with
    | some i => .int i
    | none =>
      match scalarFloat? s with
      | some x => .float x
      | none => .text word

end ClusterDiscovery.Yaml
