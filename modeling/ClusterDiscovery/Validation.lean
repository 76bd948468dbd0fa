import ClusterDiscovery.Datum.Access
import ClusterDiscovery.Failure
import ClusterDiscovery.Number.Decimal
import ClusterDiscovery.Number.Numeral
import ClusterDiscovery.Text.Case
import ClusterDiscovery.Text.Pieces

/-! # Validation of fields

Every field of a settings or model object has a check that reads its value from data. Values of a
neighbouring kind are converted where nothing is lost. All rejected fields of an object are
listed, in the order of the fields. -/

namespace ClusterDiscovery

open ClusterDiscovery.Number ClusterDiscovery.Text

/-- The result of checking data: a value, the fields that were rejected, or a failure that ends
the check at once. -/
inductive Checked (α : Type) where
  | accepted (a : α)
  | rejected (errors : List FieldError)
  | broken (failure : Failure)

namespace Checked

variable {α β : Type}

def map (f : α → β) : Checked α → Checked β
  | accepted a => accepted (f a)
  | rejected errors => rejected errors
  | broken failure => broken failure

/-- Combines two checks. The errors of both are listed; a failure of either ends the check. -/
def both (f : Checked (α → β)) (a : Checked α) : Checked β :=
  match f, a with
  | broken failure, _ => broken failure
  | _, broken failure => broken failure
  | accepted f, accepted a => accepted (f a)
  | accepted _, rejected errors => rejected errors
  | rejected errors, accepted _ => rejected errors
  | rejected first, rejected second => rejected (first ++ second)

instance : Applicative Checked where
  pure := accepted
  map := map
  seq f a := both f (a ())

/-- The errors lie one step deeper. -/
def under (step : FieldStep) : Checked α → Checked α
  | rejected errors => rejected (errors.map fun e => { e with path := step :: e.path })
  | c => c

def toExcept : Checked α → Except Failure α
  | accepted a => .ok a
  | rejected errors => .error (.validation errors)
  | broken failure => .error failure

def reject (issue : FieldIssue) : Checked α := rejected [⟨[], issue⟩]

end Checked

abbrev Check (α : Type) := Datum → Checked α

namespace Check

def textual? (onBadBytes : FieldIssue) : Datum → Except FieldIssue (Option String)
  | .text s => .ok (some s)
  | .bytes b =>
    match String.fromUTF8? ⟨b.toArray⟩ with
    | some s => .ok (some s)
    | none => .error onBadBytes
  | _ => .ok none

def yesWords : List String := ["1", "on", "t", "true", "y", "yes"]

def noWords : List String := ["0", "off", "f", "false", "n", "no"]

/-- The truth value that a word stands for, letter case aside. -/
def wordBool? (s : String) : Option Bool :=
  let word := String.ofList (s.toList.map Char.toLower)
  if yesWords.contains word then some true
  else if noWords.contains word then some false
  else none

def numberBool : Int → Checked Bool
  | 0 => .accepted false
  | 1 => .accepted true
  | _ => .reject .boolParsing

def bool : Check Bool := fun d =>
  match textual? .boolParsing d with
  | .error issue => .reject issue
  | .ok (some s) =>
    match wordBool? s with
    | some b => .accepted b
    | none => .reject .boolParsing
  | .ok none =>
    match d with
    | .bool b => .accepted b
    | .int i => numberBool i
    | .float x =>
      if isFinite x && isIntegral x then numberBool (truncate x) else .reject .boolType
    | _ => .reject .boolType

def text : Check String := fun d =>
  match textual? .textUnicode d with
  | .error issue => .reject issue
  | .ok (some s) => .accepted s
  | .ok none => .reject .textType

def nullable {α : Type} (check : Check α) : Check (Option α)
  | .null => .accepted none
  | d => some <$> check d

/-- Zeros after a point at the end of a number do not count. -/
def dropZeroFraction (s : List Char) : List Char :=
  match (s.reverse.dropWhile (· == '0')) with
  | '.' :: rest => rest.reverse
  | _ => s

def textInt? (s : String) : Option Int :=
  let (negative, digits) := takeSign (dropZeroFraction (trimWhere isBlank s.toList))
  (digitsValue? 10 false 0 digits).map fun n => if negative then -(n : Int) else n

def int : Check Int := fun d =>
  match textual? .intParsing d with
  | .error issue => .reject issue
  | .ok (some s) =>
    match textInt? s with
    | some i => .accepted i
    | none => .reject .intParsing
  | .ok none =>
    match d with
    | .bool b => .accepted (if b then 1 else 0)
    | .int i => .accepted i
    | .float x =>
      if !isFinite x then .reject .finiteNumber
      else if isIntegral x then .accepted (truncate x)
      else .reject .intFromFloat
    | _ => .reject .intType

/-- The double that a text stands for. Only plain digits are read. -/
def textFloat? (s : String) : Option Float :=
  if s.toList.all fun c => c.toNat < 128 then readFloat? s.toList else none

def float : Check Float := fun d =>
  match textual? .floatParsing d with
  | .error issue => .reject issue
  | .ok (some s) =>
    match textFloat? s with
    | some x => .accepted x
    | none => .reject .floatParsing
  | .ok none =>
    match d with
    | .bool b => .accepted (if b then 1.0 else 0.0)
    | .int i => .accepted (ofInt i)
    | .float x => .accepted x
    | _ => .reject .floatType

def each {α : Type} (check : Check α) (i : Nat) : List Datum → Checked (List α)
  | [] => .accepted []
  | d :: rest => List.cons <$> (check d).under (.position i) <*> each check (i + 1) rest

def list {α : Type} (check : Check α) : Check (List α)
  | .list items => each check 0 items
  | .tuple items => each check 0 items
  | _ => .reject .listType

/-- Inserts a number into an ascending list without repetition. -/
def insertAscending (i : Int) : List Int → List Int
  | [] => [i]
  | j :: rest =>
    if i < j then i :: j :: rest else if i == j then j :: rest else j :: insertAscending i rest

def intSet : Check (List Int) := fun d =>
  let ascending (ints : List Int) := ints.foldl (fun set i => insertAscending i set) []
  match d with
  | .list items => ascending <$> each int 0 items
  | .tuple items => ascending <$> each int 0 items
  | _ => .reject .setType

/-- The step to an entry of a mapping. -/
def stepOf : Datum → FieldStep
  | .text s => .field s
  | .int i => if i < 0 then .field (intText i) else .position i.toNat
  | .bool b => .position (if b then 1 else 0)
  | .float x => .field (floatText x)
  | .null => .field "None"
  | _ => .field ""

/-- The key and the value of an entry. Errors of the key come first. -/
def entry {α : Type} (check : Check α) (e : Datum × Datum) : Checked (String × α) :=
  let key := ((text e.1).under (.field "[key]")).under (stepOf e.1)
  Prod.mk <$> key <*> (check e.2).under (stepOf e.1)

def entries {α : Type} (check : Check α) : List (Datum × Datum) → Checked (List (String × α))
  | [] => .accepted []
  | e :: rest => List.cons <$> entry check e <*> entries check rest

def mapping {α : Type} (check : Check α) : Check (List (String × α))
  | .map es => entries check es
  | _ => .reject .mapType

def anything : Check Datum := .accepted

end Check

def requiredField {α : Type} (given : List (Datum × Datum)) (name : String) (check : Check α) :
    Checked α :=
  match Datum.named? given name with
  | some d => (check d).under (.field name)
  | none => (Checked.reject .missing).under (.field name)

def optionalField {α : Type} (given : List (Datum × Datum)) (name : String) (default : α)
    (check : Check α) : Checked α :=
  match Datum.named? given name with
  | some d => (check d).under (.field name)
  | none => .accepted default

/-- Fields that an object does not have are rejected. -/
def noFieldsBeyond (names : List String) (given : List (Datum × Datum)) : Checked Unit :=
  match given.filterMap fun (k, _) => match k with
    | .text name => if names.contains name then none else some name
    | _ => none with
  | [] => .accepted ()
  | extra => .rejected (extra.map fun name => ⟨[.field name], .extraForbidden⟩)

end ClusterDiscovery
